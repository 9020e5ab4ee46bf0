import RssiService.AiAssistant.Context
import RssiService.Foundation.Outcome
import RssiService.Foundation.Run

/-!
# The growth of a table

A table is extended message after message while the data of the tenant change.
Numbered placeholders never collide, because the counters resume above every
index in the table.  The company placeholder is a fixed name, so a renamed
company shares it with its former name.
-/

namespace RssiService.AiAssistant

open Python Foundation.Outcome Foundation.Run

/-! ## Reading a placeholder back -/

/-- A run of accepted symbols is read up to the first rejected one. -/
theorem span_of_all {symbols : List Char} {accepted : Char → Bool} (all : symbols.all accepted)
    {stop : Char} (rejected : accepted stop = false) (rest : List Char) :
    (symbols ++ stop :: rest).takeWhile accepted = symbols ∧
      (symbols ++ stop :: rest).dropWhile accepted = stop :: rest := by
  have each : ∀ symbol ∈ symbols, accepted symbol = true := List.all_eq_true.mp all
  rw [List.takeWhile_append_of_pos each, List.dropWhile_append_of_pos each]
  simp [rejected]

theorem placeholderIndex_numbered {kind : String} (filled : kind ≠ "")
    (capitals : kind.toList.all isUpper) (index : Nat) :
    placeholderIndex (numberedPlaceholder kind index) = some (kind, index) := by
  have spelled : (numberedPlaceholder kind index).toList =
      '{' :: '{' :: (kind.toList ++ '_' :: (Nat.toDigits 10 index ++ ['}', '}'])) := by
    simp [numberedPlaceholder, Nat.toString_eq_repr, Nat.toList_repr]
  have digits : (Nat.toDigits 10 index).all Char.isDigit :=
    List.all_eq_true.mpr fun symbol member =>
      Nat.isDigit_of_mem_toDigits (by omega) (by omega) member
  obtain ⟨kind_read, after_kind⟩ :=
    span_of_all capitals (by decide : isUpper '_' = false) (Nat.toDigits 10 index ++ ['}', '}'])
  obtain ⟨index_read, closing⟩ :=
    span_of_all digits (by decide : Char.isDigit '}' = false) ['}']
  have kind_filled : kind.toList ≠ [] := fun empty => filled (String.toList_eq_nil_iff.mp empty)
  unfold placeholderIndex
  rw [spelled]
  simp only [kind_read, after_kind, index_read, closing]
  simp [kind_filled, Nat.toDigits_ne_nil, Nat.ofDigitChars_ten_toDigits]

theorem placeholderIndex_company : placeholderIndex companyPlaceholder = none := by decide

/-! ## The counters -/

/-- The counters of a kind reach every index of that kind in the table. -/
def Counted (state : Mapping × Counters) : Prop :=
  ∀ placeholder ∈ state.1.placeholders, ∀ kind index,
    placeholderIndex placeholder = some (kind, index) → index ≤ state.2 kind

theorem le_resumeCounter (counters : Counters) (placeholder kind : String) :
    counters kind ≤ resumeCounter counters placeholder kind := by
  unfold resumeCounter
  cases parsed : placeholderIndex placeholder with
  | none => exact Nat.le_refl _
  | some read =>
      rcases eq_or_ne kind read.1 with same | apart
      · simp [Counters.set, same]
      · simp [Counters.set, apart]

theorem counted_countersFromMapping (mapping : Mapping) :
    Counted (mapping, countersFromMapping mapping) := by
  -- the fold keeps the counters above the placeholders read so far, and never lowers one
  have fold (placeholders : List String) (counters : Counters) :
      (∀ kind, counters kind ≤ placeholders.foldl resumeCounter counters kind) ∧
        ∀ placeholder ∈ placeholders, ∀ kind index,
          placeholderIndex placeholder = some (kind, index) →
            index ≤ placeholders.foldl resumeCounter counters kind := by
    induction placeholders generalizing counters with
    | nil => exact ⟨fun kind => Nat.le_refl _, fun placeholder member => by cases member⟩
    | cons first rest ih =>
        obtain ⟨raised, read⟩ := ih (resumeCounter counters first)
        refine ⟨fun kind => (le_resumeCounter counters first kind).trans (raised kind), ?_⟩
        intro placeholder member kind index parsed
        rcases List.mem_cons.mp member with rfl | later
        · refine Nat.le_trans ?_ (raised kind)
          simp [resumeCounter, parsed, Counters.set]
        · exact read placeholder later kind index parsed
  exact (fold mapping.placeholders _).2

/-! ## One added value -/

/-- What adding one value can do to a table. -/
theorem addValue_cases (state : Mapping × Counters) (value : String) (kind : Kind) :
    ((strip value = "" ∨ strip value ∈ state.1) ∧ addValue state value kind = state) ∨
      (strip value ≠ "" ∧ strip value ∉ state.1 ∧ ∃ placeholder,
        (addValue state value kind).1.entries = state.1.entries ++ [(strip value, placeholder)] ∧
        ((kind = .company ∧ placeholder = companyPlaceholder ∧
            (addValue state value kind).2 = state.2) ∨
          (kind ≠ .company ∧ placeholder = numberedPlaceholder kind.name (state.2 kind.name + 1) ∧
            (addValue state value kind).2 = state.2.set kind.name (state.2 kind.name + 1)))) := by
  rcases em (strip value = "") with blank | filled
  · exact Or.inl ⟨Or.inl blank, by simp [addValue, blank]⟩
  · rcases em (strip value ∈ state.1) with entered | fresh
    · exact Or.inl ⟨Or.inr entered, by simp [addValue, entered]⟩
    · refine Or.inr ⟨filled, fresh, ?_⟩
      rcases eq_or_ne kind .company with company | numbered
      · refine ⟨companyPlaceholder, ?_, Or.inl ⟨company, rfl, ?_⟩⟩ <;>
          simp [addValue, filled, fresh, company, Mapping.insert]
      · refine ⟨_, ?_, Or.inr ⟨numbered, rfl, ?_⟩⟩ <;>
          simp [addValue, filled, fresh, numbered, Mapping.insert]

theorem mem_addValue {state : Mapping × Counters} {added value : String} {kind : Kind} :
    value ∈ (addValue state added kind).1 ↔
      value ∈ state.1 ∨ (strip added = value ∧ value ≠ "") := by
  rcases addValue_cases state added kind with ⟨skipped, unchanged⟩ | ⟨filled, _, _, written, _⟩
  · rw [unchanged]
    constructor
    · exact Or.inl
    · rintro (old | ⟨rfl, filled⟩)
      · exact old
      · exact skipped.resolve_left filled
  · simp only [Mapping.mem_def, Mapping.keys, written, List.map_append, List.mem_append,
      List.map_cons, List.map_nil, List.mem_singleton]
    constructor
    · rintro (old | rfl)
      · exact Or.inl old
      · exact Or.inr ⟨rfl, filled⟩
    · rintro (old | ⟨rfl, _⟩)
      · exact Or.inl old
      · exact Or.inr rfl

theorem mem_addValues {state : Mapping × Counters} {values : List (String × Kind)}
    {value : String} :
    value ∈ (addValues state values).1 ↔
      value ∈ state.1 ∨ (value ≠ "" ∧ ∃ entry ∈ values, strip entry.1 = value) := by
  induction values generalizing state with
  | nil => simp [addValues]
  | cons entry rest ih =>
      rw [addValues_cons, ih, mem_addValue]
      simp only [List.exists_mem_cons_iff]
      constructor
      · rintro ((old | ⟨here, filled⟩) | ⟨filled, later⟩)
        · exact Or.inl old
        · exact Or.inr ⟨filled, Or.inl here⟩
        · exact Or.inr ⟨filled, Or.inr later⟩
      · rintro (old | ⟨filled, here | later⟩)
        · exact Or.inl (Or.inl old)
        · exact Or.inl (Or.inr ⟨here, filled⟩)
        · exact Or.inr ⟨filled, later⟩

/-- No placeholder designates two different values. -/
def Mapping.Injective (mapping : Mapping) : Prop :=
  ∀ first ∈ mapping.entries, ∀ second ∈ mapping.entries, first.2 = second.2 → first.1 = second.1

theorem kind_name_capitals (kind : Kind) : kind.name ≠ "" ∧ kind.name.toList.all isUpper := by
  cases kind <;> decide

/-- Adding a value keeps the table as it was and leaves at most one entry after it. -/
theorem addValue_extends (state : Mapping × Counters) (value : String) (kind : Kind) :
    state.1.entries <+: (addValue state value kind).1.entries := by
  rcases addValue_cases state value kind with ⟨_, unchanged⟩ | ⟨_, _, placeholder, added, _⟩
  · rw [unchanged]
  · rw [added]
    exact List.prefix_append _ _

theorem Mapping.Injective.of_extends {smaller larger : Mapping}
    (extends_ : smaller.entries <+: larger.entries) (injective : larger.Injective) :
    smaller.Injective := by
  intro first inFirst second inSecond same
  exact injective first (extends_.subset inFirst) second (extends_.subset inSecond) same

/-- An added entry keeps the table injective exactly when its placeholder is new. -/
theorem injective_append_iff {smaller larger : Mapping} {value placeholder : String}
    (fresh : value ∉ smaller) (added : larger.entries = smaller.entries ++ [(value, placeholder)])
    (injective : smaller.Injective) :
    larger.Injective ↔ placeholder ∉ smaller.placeholders := by
  constructor
  · intro larger_injective member
    obtain ⟨entry, inEntries, rfl⟩ := List.mem_map.mp member
    have same := larger_injective entry (by simp [added, inEntries]) (value, entry.2)
      (by simp [added]) rfl
    exact fresh (List.mem_map.mpr ⟨entry, inEntries, same⟩)
  · intro unused first inFirst second inSecond same
    rw [added, List.mem_append, List.mem_singleton] at inFirst inSecond
    rcases inFirst with oldFirst | rfl <;> rcases inSecond with oldSecond | rfl
    · exact injective first oldFirst second oldSecond same
    · exact absurd (List.mem_map.mpr ⟨first, oldFirst, same⟩) unused
    · exact absurd (List.mem_map.mpr ⟨second, oldSecond, same.symm⟩) unused
    · rfl

theorem counted_addValue {state : Mapping × Counters} (counted : Counted state)
    (value : String) (kind : Kind) : Counted (addValue state value kind) := by
  rcases addValue_cases state value kind with
    ⟨_, unchanged⟩ | ⟨_, _, placeholder, added, written⟩
  · rw [unchanged]
    exact counted
  · intro other member name index parsed
    have split : other ∈ state.1.placeholders ∨ other = placeholder := by
      simpa [Mapping.placeholders, added] using member
    rcases written with ⟨_, company, counters⟩ | ⟨_, numbered, counters⟩
    · rw [counters]
      rcases split with old | rfl
      · exact counted other old name index parsed
      · rw [company, placeholderIndex_company] at parsed
        cases parsed
    · rw [counters]
      obtain ⟨filled, capitals⟩ := kind_name_capitals kind
      rcases split with old | rfl
      · have below := counted other old name index parsed
        rcases eq_or_ne name kind.name with rfl | apart
        · simpa [Counters.set] using Nat.le_succ_of_le below
        · simpa [Counters.set, apart] using below
      · rw [numbered, placeholderIndex_numbered filled capitals] at parsed
        cases parsed
        simp [Counters.set]

/-- A numbered value never takes a placeholder already in the table. -/
theorem injective_addValue_numbered {state : Mapping × Counters} (counted : Counted state)
    (injective : state.1.Injective) (value : String) {kind : Kind} (numbered : kind ≠ .company) :
    (addValue state value kind).1.Injective := by
  rcases addValue_cases state value kind with
    ⟨_, unchanged⟩ | ⟨_, fresh, placeholder, added, ⟨company, _⟩ | ⟨_, written, _⟩⟩
  · rw [unchanged]
    exact injective
  · exact absurd company numbered
  · refine (injective_append_iff fresh added injective).mpr ?_
    intro member
    obtain ⟨filled, capitals⟩ := kind_name_capitals kind
    have parsed := placeholderIndex_numbered filled capitals (state.2 kind.name + 1)
    rw [← written] at parsed
    have below := counted placeholder member _ _ parsed
    omega

/-- The company collides exactly when another name already holds its placeholder. -/
theorem injective_addValue_company_iff {state : Mapping × Counters}
    (injective : state.1.Injective) (name : String) :
    (addValue state name .company).1.Injective ↔
      (companyPlaceholder ∈ state.1.placeholders → strip name = "" ∨ strip name ∈ state.1) := by
  rcases addValue_cases state name .company with
    ⟨skipped, unchanged⟩ | ⟨filled, fresh, placeholder, added, ⟨_, rfl, _⟩ | ⟨numbered, _, _⟩⟩
  · rw [unchanged]
    exact iff_of_true injective fun _ => skipped
  · rw [injective_append_iff fresh added injective]
    constructor
    · intro unused taken
      exact absurd taken unused
    · intro allowed taken
      rcases allowed taken with blank | entered
      · exact filled blank
      · exact fresh entered
  · exact absurd rfl numbered

/-! ## One extension -/

theorem addValues_extends (state : Mapping × Counters) (values : List (String × Kind)) :
    state.1.entries <+: (addValues state values).1.entries := by
  induction values generalizing state with
  | nil => exact List.prefix_rfl
  | cons value rest ih =>
      have here := addValue_extends state value.1 value.2
      rw [addValues_cons]
      exact here.trans (ih (addValue state value.1 value.2))

theorem injective_addValues_numbered {state : Mapping × Counters} (counted : Counted state)
    (injective : state.1.Injective) {values : List (String × Kind)}
    (numbered : ∀ value ∈ values, value.2 ≠ .company) : (addValues state values).1.Injective := by
  induction values generalizing state with
  | nil => exact injective
  | cons value rest ih =>
      have here : value.2 ≠ .company := numbered value List.mem_cons_self
      have later := injective_addValue_numbered counted injective value.1 here
      rw [addValues_cons]
      exact ih (counted_addValue counted value.1 value.2) later
        fun other member => numbered other (List.mem_cons_of_mem _ member)

theorem asset_kind_ne_company {unicode : Unicode} {asset : Asset}
    {values : List (String × Kind)} (collected : asset.sensitiveValues unicode = some values) :
    ∀ value ∈ values, value.2 ≠ .company := by
  unfold Asset.sensitiveValues at collected
  cases type : asset.type with
  | emailDomain =>
      simp only [type, Option.some.injEq] at collected
      simp [← collected]
  | website =>
      simp only [type, Option.map_eq_some_iff] at collected
      obtain ⟨hostname, _, rfl⟩ := collected
      intro value member
      rcases List.mem_cons.mp member with rfl | host_member
      · simp
      · cases hostname with
        | none => cases host_member
        | some host =>
            simp only at host_member
            split at host_member
            · cases host_member
            · rw [List.mem_singleton.mp host_member]
              simp

theorem assets_kind_ne_company {unicode : Unicode} {assets : List Asset}
    {collected : List (List (String × Kind))}
    (all : assets.mapM (Asset.sensitiveValues unicode) = some collected) :
    ∀ value ∈ collected.flatten, value.2 ≠ .company := by
  intro value member
  obtain ⟨here, known, inHere⟩ := List.mem_flatten.mp member
  obtain ⟨asset, _, collectedHere⟩ := exists_of_mem_mapM all known
  exact asset_kind_ne_company collectedHere value inHere

/-- Only the name of the company is collected under the company kind, and first. -/
theorem sensitiveValues_head {unicode : Unicode} {tenant : TenantData}
    {values : List (String × Kind)} (collected : sensitiveValues unicode tenant = some values) :
    ∃ rest, values = (tenant.name, .company) :: rest ∧ ∀ value ∈ rest, value.2 ≠ .company := by
  simp only [sensitiveValues, Option.bind_eq_bind, Option.bind_eq_some_iff] at collected
  obtain ⟨assetValues, assets_collected, whole⟩ := collected
  cases whole
  refine ⟨_, rfl, ?_⟩
  intro value member
  simp only [List.append_eq, List.mem_append, List.mem_flatMap, List.mem_map] at member
  rcases member with (⟨person, _, inPerson⟩ | inAssets) | ⟨finding, _, rfl⟩
  · rcases List.mem_cons.mp inPerson with rfl | inEmail
    · simp
    · rw [List.mem_singleton.mp inEmail]
      simp
  · exact assets_kind_ne_company assets_collected value inAssets
  · simp

/-- The table after one message: a tenant whose data cannot be collected leaves
the table as it is. -/
def extend (unicode : Unicode) (mapping : Mapping) (tenant : TenantData) : Mapping :=
  (collectSensitiveValues unicode tenant mapping).getD mapping

/-- What the data of a tenant have to meet for its extension not to collide: no
other company name holds the company placeholder. -/
def CompanyNameKept (unicode : Unicode) (mapping : Mapping) (tenant : TenantData) : Prop :=
  (sensitiveValues unicode tenant).isSome → companyPlaceholder ∈ mapping.placeholders →
    strip tenant.name = "" ∨ strip tenant.name ∈ mapping

theorem injective_extend_iff {unicode : Unicode} {mapping : Mapping} (tenant : TenantData)
    (injective : mapping.Injective) :
    (extend unicode mapping tenant).Injective ↔ CompanyNameKept unicode mapping tenant := by
  unfold extend collectSensitiveValues CompanyNameKept
  cases collected : sensitiveValues unicode tenant with
  | none => simpa using injective
  | some values =>
      obtain ⟨rest, rfl, numbered⟩ := sensitiveValues_head collected
      let start : Mapping × Counters := (mapping, countersFromMapping mapping)
      have named := injective_addValue_company_iff (show start.1.Injective from injective) tenant.name
      have counted : Counted (addValue start tenant.name .company) :=
        counted_addValue (counted_countersFromMapping mapping) tenant.name .company
      have settled : (addValues start ((tenant.name, .company) :: rest)).1.Injective ↔
          (addValue start tenant.name .company).1.Injective := by
        rw [addValues_cons]
        constructor
        · exact Mapping.Injective.of_extends
            (addValues_extends (addValue start tenant.name .company) rest)
        · intro company_injective
          exact injective_addValues_numbered counted company_injective numbered
      simpa using settled.trans named

theorem extend_extends (unicode : Unicode) (mapping : Mapping) (tenant : TenantData) :
    mapping.entries <+: (extend unicode mapping tenant).entries := by
  unfold extend collectSensitiveValues
  cases sensitiveValues unicode tenant with
  | none => exact List.prefix_rfl
  | some values => exact addValues_extends (mapping, countersFromMapping mapping) values

theorem get_of_extends {smaller larger : Mapping} (extends_ : smaller.entries <+: larger.entries)
    {value : String} (member : value ∈ smaller) : larger.get value = smaller.get value := by
  obtain ⟨added, split⟩ := extends_
  obtain ⟨entry, inEntries, key_eq⟩ := List.mem_map.mp (Mapping.mem_def.mp member)
  unfold Mapping.get
  rw [← split, List.lookup_append]
  cases found : smaller.entries.lookup value with
  | some placeholder => rfl
  | none =>
      have absent := List.lookup_eq_none_iff.mp found entry inEntries
      simp [key_eq] at absent

/-! ## Whole conversations -/

/-- A value keeps the placeholder it has. -/
def PlaceholdersKept (unicode : Unicode) (mapping : Mapping) (tenant : TenantData) : Prop :=
  ∀ value ∈ mapping, value ∈ extend unicode mapping tenant ∧
    (extend unicode mapping tenant).get value = mapping.get value

theorem placeholdersKept (unicode : Unicode) (mapping : Mapping) (tenant : TenantData) :
    PlaceholdersKept unicode mapping tenant := by
  intro value member
  have extends_ := extend_extends unicode mapping tenant
  refine ⟨?_, get_of_extends extends_ member⟩
  exact (extends_.map Prod.fst).subset member

/-- Along any history of tenant data no value changes placeholder, and the
table stays injective exactly when no extension brings a second company name. -/
theorem mapping_injective_iff (unicode : Unicode) (mapping : Mapping)
    (injective : mapping.Injective) (history : List TenantData) :
    EachStep (extend unicode) (PlaceholdersKept unicode) mapping history ∧
      (Always (extend unicode) Mapping.Injective mapping history ↔
        EachStep (extend unicode) (CompanyNameKept unicode) mapping history) := by
  constructor
  · exact eachStep_of_forall (placeholdersKept unicode) mapping history
  · exact always_iff_eachStep_of_start
      (fun mapping tenant injective => injective_extend_iff tenant injective) injective history

/-! ## A renamed company -/

/-- Tables that change no character. -/
def plainUnicode : Unicode := ⟨id, id, fun _ => true⟩

def renamedTo (name : String) : TenantData where
  name := name
  sector := ""
  headcount := none
  scores := none
  members := []
  assets := []
  alerts := []
  findings := []

theorem renamed_company_collides :
    ¬ Always (extend plainUnicode) Mapping.Injective Mapping.empty
      [renamedTo "Acme", renamedTo "Globex"] := by
  intro always
  have entries : (after (extend plainUnicode) Mapping.empty
      [renamedTo "Acme", renamedTo "Globex"]).entries =
        [("Acme", companyPlaceholder), ("Globex", companyPlaceholder)] := by decide +kernel
  have collision := always.last ("Acme", companyPlaceholder) (by rw [entries]; simp)
    ("Globex", companyPlaceholder) (by rw [entries]; simp) rfl
  exact absurd collision (by decide)

theorem mapping_injective_iff_renamed :
    EachStep (extend plainUnicode) (PlaceholdersKept plainUnicode) Mapping.empty
        [renamedTo "Acme", renamedTo "Globex"] ∧
      (Always (extend plainUnicode) Mapping.Injective Mapping.empty
          [renamedTo "Acme", renamedTo "Globex"] ↔
        EachStep (extend plainUnicode) (CompanyNameKept plainUnicode) Mapping.empty
          [renamedTo "Acme", renamedTo "Globex"]) :=
  mapping_injective_iff plainUnicode Mapping.empty (fun _ member => by cases member) _

end RssiService.AiAssistant
