import Mathlib.Logic.Relation
import RssiService.ThreatIntelligence.Fingerprints
import RssiService.ThreatIntelligence.Ingestion

/-!
# Leaks the provider tells again

The provider returns a leak once more with its keys in another order, with other
dates, with a field more or less.  The key of the leak stays the same when the
secrets that can come first under another order all have one text.
-/

namespace RssiService.ThreatIntelligence

open Python
open Relation (ReflTransGen)

/-! ## Secrets that can come first -/

def fieldSecrets (unicode : Unicode) (field : String × Json) : List String :=
  if field.2.isContainer then secrets unicode field.2 else scalarSecret unicode field.1 field.2

mutual

/-- The secrets that come first under some order of the keys.  The items of a
list keep their order, and so does what stands under a locked key. -/
def leads (unicode : Unicode) (locked : List String) : Json → List String
  | .obj fields => leadsFields unicode locked fields
  | .arr items => leadsItems unicode items
  | _ => []

def leadsItems (unicode : Unicode) : List Json → List String
  | [] => []
  | item :: rest =>
      if leads unicode [] item = [] then leadsItems unicode rest else leads unicode [] item

def leadsFields (unicode : Unicode) (locked : List String) : List (String × Json) → List String
  | [] => []
  | (key, value) :: rest =>
      (if key ∈ locked || !value.isContainer then (fieldSecrets unicode (key, value)).head?.toList
        else leads unicode [] value) ++ leadsFields unicode locked rest

end

/-! ## Retold records -/

/-- One change the provider may make: another order of the keys, a field or an
item that holds no secret more or less, or such a change inside a field or an
item.  What stands under a locked key is kept. -/
inductive Retold (unicode : Unicode) : List String → Json → Json → Prop
  | permute {locked : List String} {fields fields' : List (String × Json)} :
      fields.Perm fields' → Retold unicode locked (.obj fields) (.obj fields')
  | leave {locked : List String} {before after : List (String × Json)} {field : String × Json} :
      field.1 ∉ locked → fieldSecrets unicode field = [] →
      Retold unicode locked (.obj (before ++ field :: after)) (.obj (before ++ after))
  | bring {locked : List String} {before after : List (String × Json)} {field : String × Json} :
      field.1 ∉ locked → fieldSecrets unicode field = [] →
      field.1 ∉ (before ++ after).map Prod.fst →
      Retold unicode locked (.obj (before ++ after)) (.obj (before ++ field :: after))
  | field {locked : List String} {before after : List (String × Json)} {key : String}
      {value value' : Json} :
      key ∉ locked → Retold unicode [] value value' →
      Retold unicode locked (.obj (before ++ (key, value) :: after))
        (.obj (before ++ (key, value') :: after))
  | leaveItem {locked : List String} {before after : List Json} {value : Json} :
      secrets unicode value = [] →
      Retold unicode locked (.arr (before ++ value :: after)) (.arr (before ++ after))
  | bringItem {locked : List String} {before after : List Json} {value : Json} :
      secrets unicode value = [] →
      Retold unicode locked (.arr (before ++ after)) (.arr (before ++ value :: after))
  | item {locked : List String} {before after : List Json} {value value' : Json} :
      Retold unicode [] value value' →
      Retold unicode locked (.arr (before ++ value :: after)) (.arr (before ++ value' :: after))

section Leads

variable {unicode : Unicode} {locked : List String}

def fieldLeads (unicode : Unicode) (locked : List String) (field : String × Json) : List String :=
  if field.1 ∈ locked || !field.2.isContainer then (fieldSecrets unicode field).head?.toList
  else leads unicode [] field.2

theorem secretsFields_eq (fields : List (String × Json)) :
    secretsFields unicode fields = fields.flatMap (fieldSecrets unicode) := by
  induction fields with
  | nil => rfl
  | cons field rest ih =>
      rw [secretsFields, ih]
      rfl

theorem secretsItems_eq (items : List Json) :
    secretsItems unicode items = items.flatMap (secrets unicode) := by
  induction items with
  | nil => rfl
  | cons item rest ih =>
      rw [secretsItems, ih]
      rfl

theorem leadsFields_eq (fields : List (String × Json)) :
    leadsFields unicode locked fields = fields.flatMap (fieldLeads unicode locked) := by
  induction fields with
  | nil => rfl
  | cons field rest ih =>
      rw [leadsFields, ih]
      rfl

/-- In a list, the first item with a secret leads. -/
theorem leadsItems_append (before after : List Json) :
    leadsItems unicode (before ++ after) =
      if leadsItems unicode before = [] then leadsItems unicode after
      else leadsItems unicode before := by
  induction before with
  | nil => simp [leadsItems]
  | cons item rest ih =>
      rw [List.cons_append, leadsItems, leadsItems, ih]
      split_ifs <;> rfl

/-- The secret of a field leads it, when it has one. -/
theorem fieldLeads_of_locked {field : String × Json}
    (kept : field.1 ∈ locked ∨ field.2.isContainer = false) :
    fieldLeads unicode locked field = (fieldSecrets unicode field).head?.toList := by
  rw [fieldLeads, if_pos]
  rcases kept with kept | scalar
  · simp [kept]
  · simp [scalar]

theorem fieldLeads_of_container {field : String × Json} (free : field.1 ∉ locked)
    (container : field.2.isContainer = true) :
    fieldLeads unicode locked field = leads unicode [] field.2 := by
  rw [fieldLeads, if_neg]
  simp [free, container]

theorem fieldSecrets_of_container {field : String × Json} (container : field.2.isContainer = true) :
    fieldSecrets unicode field = secrets unicode field.2 := by
  rw [fieldSecrets, if_pos container]

/-- A field has a leading secret when its value has. -/
theorem fieldLeads_eq_nil_iff {field : String × Json}
    (inside : leads unicode [] field.2 = [] ↔ secrets unicode field.2 = []) :
    fieldLeads unicode locked field = [] ↔ fieldSecrets unicode field = [] := by
  cases container : field.2.isContainer with
  | false => rw [fieldLeads_of_locked (Or.inr container)]; simp
  | true =>
      by_cases kept : field.1 ∈ locked
      · rw [fieldLeads_of_locked (Or.inl kept)]
        simp
      · rw [fieldLeads_of_container kept container, fieldSecrets_of_container container, inside]

theorem leads_eq_nil_iff (value : Json) :
    leads unicode locked value = [] ↔ secrets unicode value = [] := by
  induction value generalizing locked with
  | null => exact iff_of_true rfl rfl
  | bool value => exact iff_of_true rfl rfl
  | int value => exact iff_of_true rfl rfl
  | float text => exact iff_of_true rfl rfl
  | str text => exact iff_of_true rfl rfl
  | arr items ih =>
      rw [leads, secrets]
      induction items with
      | nil => exact iff_of_true rfl rfl
      | cons item rest later =>
          have here : leads unicode [] item = [] ↔ secrets unicode item = [] :=
            ih item List.mem_cons_self
          have after := later fun other member => ih other (List.mem_cons_of_mem _ member)
          rw [leadsItems, secretsItems, List.append_eq_nil_iff, ← here, ← after]
          split_ifs with none
          · exact ⟨fun blank => ⟨none, blank⟩, And.right⟩
          · exact iff_of_false none fun both => none both.1
  | obj fields ih =>
      rw [leads, secrets, leadsFields_eq, secretsFields_eq, List.flatMap_eq_nil_iff,
        List.flatMap_eq_nil_iff]
      exact forall₂_congr fun field member => fieldLeads_eq_nil_iff (ih field member)

theorem mem_fieldLeads_of_head? {field : String × Json} {text : String}
    (inside : (secrets unicode field.2).head? = some text → text ∈ leads unicode [] field.2)
    (first : (fieldSecrets unicode field).head? = some text) :
    text ∈ fieldLeads unicode locked field := by
  by_cases kept : field.1 ∈ locked ∨ field.2.isContainer = false
  · rw [fieldLeads_of_locked kept, first]
    exact List.mem_singleton_self text
  · obtain ⟨free, container⟩ := not_or.mp kept
    rw [Bool.not_eq_false] at container
    rw [fieldSecrets_of_container container] at first
    rw [fieldLeads_of_container free container]
    exact inside first

/-- The secret that the walk meets first is one of those that can. -/
theorem mem_leads_of_head? {value : Json} {text : String}
    (first : (secrets unicode value).head? = some text) : text ∈ leads unicode locked value := by
  induction value generalizing locked with
  | null => cases first
  | bool value => cases first
  | int value => cases first
  | float text => cases first
  | str text => cases first
  | arr items ih =>
      rw [secrets] at first
      rw [leads]
      induction items with
      | nil => cases first
      | cons item rest later =>
          rw [secretsItems, List.head?_append, Option.or_eq_some_iff] at first
          rw [leadsItems]
          rcases first with here | ⟨none, after⟩
          · have member : text ∈ leads unicode [] item := ih item List.mem_cons_self here
            rw [if_neg (List.ne_nil_of_mem member)]
            exact member
          · rw [if_pos ((leads_eq_nil_iff item).mpr (List.head?_eq_none_iff.mp none))]
            exact later (fun other member => ih other (List.mem_cons_of_mem _ member)) after
  | obj fields ih =>
      rw [secrets, secretsFields_eq] at first
      rw [leads, leadsFields_eq]
      induction fields with
      | nil => cases first
      | cons field rest later =>
          rw [List.flatMap_cons, List.head?_append, Option.or_eq_some_iff] at first
          rw [List.flatMap_cons]
          rcases first with here | ⟨_, after⟩
          · exact List.mem_append_left _
              (mem_fieldLeads_of_head? (ih field List.mem_cons_self) here)
          · exact List.mem_append_right _
              (later (fun other member => ih other (List.mem_cons_of_mem _ member)) after)

/-! ## What a change keeps -/

theorem Retold.isContainer {value value' : Json} (retold : Retold unicode locked value value') :
    value.isContainer = true ∧ value'.isContainer = true := by
  cases retold <;> exact ⟨rfl, rfl⟩

theorem leads_obj (fields : List (String × Json)) : leads unicode locked (.obj fields) =
    fields.flatMap (fieldLeads unicode locked) := by
  rw [leads, leadsFields_eq]

theorem leads_without_field {before after : List (String × Json)} {field : String × Json}
    (none : fieldSecrets unicode field = []) :
    leads unicode locked (.obj (before ++ field :: after)) =
      leads unicode locked (.obj (before ++ after)) := by
  have leadless : fieldLeads unicode locked field = [] :=
    (fieldLeads_eq_nil_iff (leads_eq_nil_iff field.2)).mpr none
  rw [leads_obj, leads_obj, List.flatMap_append, List.flatMap_append, List.flatMap_cons, leadless,
    List.nil_append]

theorem leads_without_item {before after : List Json} {value : Json}
    (none : secrets unicode value = []) :
    leads unicode locked (.arr (before ++ value :: after)) =
      leads unicode locked (.arr (before ++ after)) := by
  rw [leads, leads, leadsItems_append, leadsItems_append before after, leadsItems,
    if_pos ((leads_eq_nil_iff value).mpr none)]

/-- A change keeps the secrets that can come first. -/
theorem Retold.mem_leads {value value' : Json} (retold : Retold unicode locked value value')
    (text : String) : text ∈ leads unicode locked value ↔ text ∈ leads unicode locked value' := by
  induction retold generalizing text with
  | permute same =>
      rw [leads_obj, leads_obj]
      exact (same.flatMap_right _).mem_iff
  | leave free none => rw [leads_without_field none]
  | bring free none fresh => rw [leads_without_field none]
  | @field locked before after key value value' free change ih =>
      obtain ⟨container, container'⟩ := change.isContainer
      have here : fieldLeads unicode locked (key, value) = leads unicode [] value :=
        fieldLeads_of_container free container
      have here' : fieldLeads unicode locked (key, value') = leads unicode [] value' :=
        fieldLeads_of_container free container'
      simp only [leads_obj, List.flatMap_append, List.flatMap_cons, List.mem_append, here, here',
        ih text]
  | leaveItem none => rw [leads_without_item none]
  | bringItem none => rw [leads_without_item none]
  | @item locked before after value value' change ih =>
      have blank : leads unicode [] value = [] ↔ leads unicode [] value' = [] := by
        rw [List.eq_nil_iff_forall_not_mem, List.eq_nil_iff_forall_not_mem]
        exact forall_congr' fun text => not_congr (ih text)
      rw [leads, leads, leadsItems_append, leadsItems_append before (value' :: after)]
      split_ifs
      · rw [leadsItems, leadsItems]
        by_cases none : leads unicode [] value = []
        · rw [if_pos none, if_pos (blank.mp none)]
        · rw [if_neg none, if_neg (mt blank.mpr none)]
          exact ih text
      · exact Iff.rfl

/-! ## Bringing a secret to the front -/

theorem retold_within {before after : List (String × Json)} {key : String} (free : key ∉ locked)
    {value value' : Json} (changes : ReflTransGen (Retold unicode []) value value') :
    ReflTransGen (Retold unicode locked) (.obj (before ++ (key, value) :: after))
      (.obj (before ++ (key, value') :: after)) :=
  changes.lift (fun inner => Json.obj (before ++ (key, inner) :: after))
    fun _ _ change => .field free change

theorem retold_item {before after : List Json} {value value' : Json}
    (changes : ReflTransGen (Retold unicode []) value value') :
    ReflTransGen (Retold unicode locked) (.arr (before ++ value :: after))
      (.arr (before ++ value' :: after)) :=
  changes.lift (fun inner => Json.arr (before ++ inner :: after)) fun _ _ change => .item change

theorem head?_secrets_obj {field : String × Json} {rest : List (String × Json)} {text : String}
    (first : (fieldSecrets unicode field).head? = some text) :
    (secrets unicode (.obj (field :: rest))).head? = some text := by
  rw [secrets, secretsFields_eq, List.flatMap_cons, List.head?_append, first, Option.some_or]

/-- The item of a list that leads it. -/
theorem exists_leading_item {items : List Json} {text : String}
    (leading : text ∈ leads unicode locked (.arr items)) :
    ∃ before item after, items = before ++ item :: after ∧
      before.flatMap (secrets unicode) = [] ∧ text ∈ leads unicode [] item := by
  rw [leads] at leading
  induction items with
  | nil => cases leading
  | cons item rest ih =>
      rw [leadsItems] at leading
      split_ifs at leading with none
      · obtain ⟨before, other, after, rfl, blank, member⟩ := ih leading
        refine ⟨item :: before, other, after, rfl, ?_, member⟩
        rw [List.flatMap_cons, blank, (leads_eq_nil_iff item).mp none, List.nil_append]
      · exact ⟨[], item, rest, rfl, rfl, leading⟩

/-- The field of a secret that can come first is put in front, and its own
secret brought to the front inside it. -/
theorem exists_retold_fields {fields : List (String × Json)} {text : String}
    (each : ∀ field ∈ fields, text ∈ leads unicode [] field.2 →
      ∃ value', ReflTransGen (Retold unicode []) field.2 value' ∧
        (secrets unicode value').head? = some text ∧ value'.isContainer = true)
    (leading : text ∈ leads unicode locked (.obj fields)) :
    ∃ before key value value' after, fields = before ++ (key, value) :: after ∧
      (value' = value ∨ key ∉ locked ∧ value.isContainer = true ∧ value'.isContainer = true) ∧
      ReflTransGen (Retold unicode locked) (.obj fields) (.obj ((key, value') :: (before ++ after))) ∧
      (secrets unicode (.obj ((key, value') :: (before ++ after)))).head? = some text := by
  rw [leads_obj] at leading
  obtain ⟨⟨key, value⟩, member, leads⟩ := List.mem_flatMap.mp leading
  obtain ⟨before, after, rfl⟩ := List.append_of_mem member
  have front : ReflTransGen (Retold unicode locked) (.obj (before ++ (key, value) :: after))
      (.obj ((key, value) :: (before ++ after))) := .single (.permute List.perm_middle)
  by_cases kept : key ∈ locked ∨ value.isContainer = false
  · rw [fieldLeads_of_locked kept, Option.mem_toList] at leads
    exact ⟨before, key, value, value, after, rfl, Or.inl rfl, front, head?_secrets_obj leads⟩
  · obtain ⟨free, container⟩ := not_or.mp kept
    rw [Bool.not_eq_false] at container
    rw [fieldLeads_of_container free container] at leads
    obtain ⟨value', changes, first, container'⟩ := each _ member leads
    have inside : ReflTransGen (Retold unicode locked) (.obj ([] ++ (key, value) :: (before ++ after)))
        (.obj ([] ++ (key, value') :: (before ++ after))) := retold_within free changes
    refine ⟨before, key, value, value', after, rfl, Or.inr ⟨free, container, container'⟩,
      front.trans inside, head?_secrets_obj ?_⟩
    rw [fieldSecrets_of_container container']
    exact first

/-- Every secret that can come first comes first in a retold value. -/
theorem exists_retold {value : Json} {text : String} (leading : text ∈ leads unicode [] value) :
    ∃ value', ReflTransGen (Retold unicode []) value value' ∧
      (secrets unicode value').head? = some text ∧ value'.isContainer = true := by
  induction value with
  | null => cases leading
  | bool value => cases leading
  | int value => cases leading
  | float text => cases leading
  | str text => cases leading
  | arr items ih =>
      obtain ⟨before, item, after, rfl, blank, member⟩ := exists_leading_item leading
      obtain ⟨item', changes, first, _⟩ := ih item (by simp) member
      refine ⟨_, retold_item changes, ?_, rfl⟩
      rw [secrets, secretsItems_eq, List.flatMap_append, blank, List.nil_append, List.flatMap_cons,
        List.head?_append, first, Option.some_or]
  | obj fields ih =>
      obtain ⟨_, _, _, _, _, _, _, changes, first⟩ := exists_retold_fields ih leading
      exact ⟨_, changes, first, rfl⟩

end Leads

/-! ## The fields that identify a leak -/

/-- The key the identifier is read from. -/
def identifierKey (unicode : Unicode) (endpoint : String) (payload : Json) : Option String :=
  let present := fun field => !(payload.get field).isBlank
  match (schemaOf endpoint).identifierFields.find? present with
  | some key =>
      if (payload.get key).toStr unicode = "" then fallbackIdentifierKeys.find? present
      else some key
  | none => fallbackIdentifierKeys.find? present

/-- The identity fields of an endpoint and the field of the identifier. -/
def lockedKeys (unicode : Unicode) (endpoint : String) (raw : List (String × Json)) :
    List String :=
  (schemaOf endpoint).identityFields ++ (identifierKey unicode endpoint (.obj raw)).toList

/-- The same leak, told again: the identifier, the identity fields and the
secrets are the same, in any order, and the other fields are whatever they are. -/
def ToldAgain (unicode : Unicode) (endpoint : String) (raw raw' : List (String × Json)) : Prop :=
  extractIdentifier unicode endpoint (.obj raw') = extractIdentifier unicode endpoint (.obj raw) ∧
    ReflTransGen (Retold unicode (lockedKeys unicode endpoint raw)) (.obj raw) (.obj raw')

section Kept

variable {unicode : Unicode} {locked : List String}

def keysOf : Json → List String
  | .obj fields => fields.map Prod.fst
  | _ => []

theorem lookup_eq_of_perm {fields fields' : List (String × Json)} (same : fields.Perm fields')
    (nodup : (fields.map Prod.fst).Nodup) (key : String) :
    fields.lookup key = fields'.lookup key := by
  induction same with
  | nil => rfl
  | cons field _ ih =>
      obtain ⟨name, value⟩ := field
      rw [List.lookup_cons, List.lookup_cons, ih (List.nodup_cons.mp nodup).2]
  | swap field other rest =>
      obtain ⟨name, value⟩ := field
      obtain ⟨name', value'⟩ := other
      rw [List.map_cons, List.map_cons, List.nodup_cons] at nodup
      have apart : name' ≠ name := fun same => nodup.1 (same ▸ List.mem_cons_self)
      rw [List.lookup_cons, List.lookup_cons, List.lookup_cons, List.lookup_cons]
      by_cases here : key = name'
      · have skipped : (name' == name) = false := beq_eq_false_iff_ne.mpr apart
        simp [here, skipped]
      · have skipped : (key == name') = false := beq_eq_false_iff_ne.mpr here
        simp only [skipped]
  | trans first _ ih ih' =>
      exact (ih nodup).trans (ih' ((first.map Prod.fst).nodup_iff.mp nodup))

/-- A field under another key is not found. -/
theorem get_without {before after : List (String × Json)} {key : String} (field : String × Json)
    (other : key ≠ field.1) :
    (Json.obj (before ++ field :: after)).get key = (Json.obj (before ++ after)).get key := by
  obtain ⟨name, value⟩ := field
  have skipped : (key == name) = false := beq_eq_false_iff_ne.mpr other
  simp only [Json.get, List.lookup_append, List.lookup_cons, skipped]

/-- A change keeps the keys apart, and what stands under the locked ones. -/
theorem Retold.kept {value value' : Json} (retold : Retold unicode locked value value')
    (nodup : (keysOf value).Nodup) :
    (keysOf value').Nodup ∧ ∀ key ∈ locked, value'.get key = value.get key := by
  cases retold with
  | permute same =>
      refine ⟨(same.map Prod.fst).nodup_iff.mp nodup, fun key _ => ?_⟩
      rw [Json.get, Json.get, lookup_eq_of_perm same nodup]
  | @leave _ before after field free none =>
      refine ⟨nodup.sublist (((List.sublist_cons_self field after).append_left before).map _),
        fun key inside => ?_⟩
      exact (get_without _ fun same => free (same ▸ inside)).symm
  | @bring _ before after field free none fresh =>
      refine ⟨?_, fun key inside => get_without _ fun same => free (same ▸ inside)⟩
      have front : (before ++ field :: after).Perm (field :: (before ++ after)) := List.perm_middle
      exact (front.map Prod.fst).nodup_iff.mpr (List.nodup_cons.mpr ⟨fresh, nodup⟩)
  | @field _ before after key value value' free change =>
      refine ⟨?_, fun other inside => ?_⟩
      · simpa [keysOf] using nodup
      · have apart : other ≠ key := fun same => free (same ▸ inside)
        rw [get_without (key, value') apart, get_without (key, value) apart]
  | leaveItem none => exact ⟨List.nodup_nil, fun _ _ => rfl⟩
  | bringItem none => exact ⟨List.nodup_nil, fun _ _ => rfl⟩
  | item change => exact ⟨List.nodup_nil, fun _ _ => rfl⟩

/-- What a single change keeps, any number of changes keep. -/
structure Unchanged (unicode : Unicode) (locked : List String) (value value' : Json) : Prop where
  keys : (keysOf value').Nodup
  get : ∀ key ∈ locked, value'.get key = value.get key
  leads : ∀ text, text ∈ leads unicode locked value' ↔ text ∈ leads unicode locked value

theorem unchanged_of_retold {value' : Json} (value : Json) (nodup : (keysOf value).Nodup)
    (changes : ReflTransGen (Retold unicode locked) value value') :
    Unchanged unicode locked value value' := by
  induction changes with
  | refl => exact ⟨nodup, fun _ _ => rfl, fun _ => Iff.rfl⟩
  | tail _ change ih =>
      obtain ⟨keys, get⟩ := change.kept ih.keys
      exact ⟨keys, fun key inside => (get key inside).trans (ih.get key inside),
        fun text => (change.mem_leads text).symm.trans (ih.leads text)⟩

end Kept

/-! ## The key of a leak told again -/

section Keys

variable {runtime : Runtime} {unicode : Unicode} {endpoint : String}
  {raw raw' : List (String × Json)}

theorem identityText_congr (same : ∀ field ∈ (schemaOf endpoint).identityFields,
    (Json.obj raw').get field = (Json.obj raw).get field) :
    identityText unicode endpoint raw' = identityText unicode endpoint raw := by
  have present : (schemaOf endpoint).identityFields.filter
        (fun field => !((Json.obj raw').get field).isBlank) =
      (schemaOf endpoint).identityFields.filter
        fun field => !((Json.obj raw).get field).isBlank :=
    List.filter_congr fun field member => by rw [same field member]
  have entries : identityEntries unicode endpoint raw' = identityEntries unicode endpoint raw := by
    rw [identityEntries, identityEntries, present]
    apply List.map_congr_left
    intro field member
    rw [same field (List.mem_of_mem_filter member)]
  rw [identityText, identityText, entries]

theorem identityText_of_unchanged
    (unchanged : Unchanged unicode (lockedKeys unicode endpoint raw) (.obj raw) (.obj raw')) :
    identityText unicode endpoint raw' = identityText unicode endpoint raw :=
  identityText_congr fun field member => unchanged.get field (List.mem_append_left _ member)

/-- The first secret of a record is one that can come first, when it has one. -/
theorem firstSecret_cases (unicode : Unicode) (locked : List String) (raw : List (String × Json)) :
    leads unicode locked (.obj raw) = [] ∧ firstSecret unicode raw = "" ∨
      firstSecret unicode raw ∈ leads unicode locked (.obj raw) := by
  rw [firstSecret]
  cases texts : secrets unicode (.obj raw) with
  | nil => exact Or.inl ⟨(leads_eq_nil_iff _).mpr texts, rfl⟩
  | cons text rest => exact Or.inr (mem_leads_of_head? (by rw [texts]; rfl))

/-- Where the leading secrets all have one text, every retold record has it. -/
theorem firstSecret_of_unchanged {locked : List String}
    (unchanged : Unchanged unicode locked (.obj raw) (.obj raw'))
    (single : ∀ first ∈ leads unicode locked (.obj raw),
      ∀ second ∈ leads unicode locked (.obj raw), first = second) :
    firstSecret unicode raw' = firstSecret unicode raw := by
  rcases firstSecret_cases unicode locked raw with ⟨none, blank⟩ | leading
  · rcases firstSecret_cases unicode locked raw' with ⟨_, blank'⟩ | leading'
    · rw [blank, blank']
    · have led := (unchanged.leads _).mp leading'
      rw [none] at led
      cases led
  · rcases firstSecret_cases unicode locked raw' with ⟨none', _⟩ | leading'
    · have led := (unchanged.leads _).mpr leading
      rw [none'] at led
      cases led
    · exact single _ ((unchanged.leads _).mp leading') _ leading

theorem toStr_container_ne_empty {value : Json} (container : value.isContainer = true) :
    value.toStr unicode ≠ "" := by
  cases value with
  | arr items =>
      intro blank
      have symbols := congrArg String.toList blank
      simp [Json.toStr, Json.repr] at symbols
  | obj fields =>
      intro blank
      have symbols := congrArg String.toList blank
      simp [Json.toStr, Json.repr] at symbols
  | null => cases container
  | bool value => cases container
  | int value => cases container
  | float text => cases container
  | str text => cases container

theorem isBlank_container {value : Json} (container : value.isContainer = true) :
    value.isBlank = false := by
  cases value <;> first | rfl | cases container

/-- A change inside containers that are not the identifier keeps the identifier. -/
theorem extractIdentifier_congr
    (akin : ∀ key, (Json.obj raw').get key = (Json.obj raw).get key ∨
      key ∉ lockedKeys unicode endpoint raw ∧ ((Json.obj raw).get key).isContainer = true ∧
        ((Json.obj raw').get key).isContainer = true) :
    extractIdentifier unicode endpoint (.obj raw') =
      extractIdentifier unicode endpoint (.obj raw) := by
  have blank (key : String) :
      ((Json.obj raw').get key).isBlank = ((Json.obj raw).get key).isBlank := by
    rcases akin key with same | ⟨_, container, container'⟩
    · rw [same]
    · rw [isBlank_container container, isBlank_container container']
  have kept {key : String} (identifies : identifierKey unicode endpoint (.obj raw) = some key) :
      (Json.obj raw').get key = (Json.obj raw).get key := by
    refine (akin key).resolve_right fun changed => changed.1 ?_
    rw [lockedKeys, identifies]
    exact List.mem_append_right _ List.mem_cons_self
  have fallback (identifies : identifierKey unicode endpoint (.obj raw) =
        fallbackIdentifierKeys.find? fun key => !((Json.obj raw).get key).isBlank) :
      firstPresent unicode (.obj raw') fallbackIdentifierKeys =
        firstPresent unicode (.obj raw) fallbackIdentifierKeys := by
    simp only [firstPresent, blank]
    cases found : fallbackIdentifierKeys.find? fun key => !((Json.obj raw).get key).isBlank with
    | none => rfl
    | some key => rw [Option.map_some, Option.map_some, kept (identifies.trans found)]
  rw [extractIdentifier, extractIdentifier]
  cases found : (schemaOf endpoint).identifierFields.find?
      fun key => !((Json.obj raw).get key).isBlank with
  | none =>
      have identifies : identifierKey unicode endpoint (.obj raw) =
          fallbackIdentifierKeys.find? fun key => !((Json.obj raw).get key).isBlank := by
        rw [identifierKey, found]
      rw [fallback identifies]
      simp only [firstPresent, blank, found, Option.map_none]
  | some key =>
      by_cases empty : ((Json.obj raw).get key).toStr unicode = ""
      · -- a field that prints as nothing is no container, and the other keys are read
        have identifies : identifierKey unicode endpoint (.obj raw) =
            fallbackIdentifierKeys.find? fun key => !((Json.obj raw).get key).isBlank := by
          rw [identifierKey, found]
          exact if_pos empty
        have same : (Json.obj raw').get key = (Json.obj raw).get key :=
          (akin key).resolve_right fun changed => toStr_container_ne_empty changed.2.1 empty
        rw [fallback identifies]
        simp only [firstPresent, blank, found, Option.map_some, same]
      · have identifies : identifierKey unicode endpoint (.obj raw) = some key := by
          rw [identifierKey, found]
          exact if_neg empty
        simp only [firstPresent, blank, found, Option.map_some, kept identifies, orElse, if_neg empty]

/-- Every secret that can come first is the first one of the leak told again. -/
theorem exists_toldAgain (nodup : (raw.map Prod.fst).Nodup) {text : String}
    (leading : text ∈ leads unicode (lockedKeys unicode endpoint raw) (.obj raw)) :
    ∃ raw', ToldAgain unicode endpoint raw raw' ∧ firstSecret unicode raw' = text := by
  obtain ⟨before, key, value, value', after, split, changed, changes, first⟩ :=
    exists_retold_fields (fun _ _ => exists_retold) leading
  refine ⟨(key, value') :: (before ++ after), ⟨extractIdentifier_congr ?_, changes⟩, ?_⟩
  · intro other
    have front : raw.Perm ((key, value) :: (before ++ after)) := split ▸ List.perm_middle
    have found := lookup_eq_of_perm front nodup
    simp only [Json.get, found, List.lookup_cons]
    cases here : other == key with
    | false => exact Or.inl rfl
    | true =>
        rw [eq_of_beq here]
        rcases changed with rfl | changed
        · exact Or.inl rfl
        · exact Or.inr changed
  · rw [firstSecret, List.headD_eq_head?_getD, first, Option.getD_some]

/-- The texts hashed when the leading secrets take turns. -/
def leadingTexts (runtime : Runtime) (endpoint : String) (raw : List (String × Json)) :
    List String :=
  let texts := leads runtime.unicode (lockedKeys runtime.unicode endpoint raw) (.obj raw)
  texts ++ texts.map fun text =>
    computeIdentityHash runtime endpoint (.obj raw) ++ "|" ++ computeSecretFingerprint runtime text

theorem dedupText_toldAgain (nodup : (raw.map Prod.fst).Nodup)
    (again : ToldAgain runtime.unicode endpoint raw raw') :
    dedupText runtime endpoint raw' = computeIdentityHash runtime endpoint (.obj raw) ++ "|" ++
      computeSecretFingerprint runtime (firstSecret runtime.unicode raw') := by
  have unchanged := unchanged_of_retold (.obj raw) nodup again.2
  rw [dedupText, computeIdentityHash_eq, computeIdentityHash_eq,
    identityText_of_unchanged unchanged]

end Keys

/-- Without collision, a leak keeps its key whenever it is told again exactly
when the secrets that can come first all have one text. -/
theorem dedupHash_toldAgain_iff (runtime : Runtime) (endpoint : String)
    (raw : List (String × Json)) (nodup : (raw.map Prod.fst).Nodup)
    (free : CollisionFree runtime (leadingTexts runtime endpoint raw)) :
    (∀ raw', ToldAgain runtime.unicode endpoint raw raw' →
        (normalizeFinding runtime endpoint raw').dedupHash =
          (normalizeFinding runtime endpoint raw).dedupHash) ↔
      ∀ first ∈ leads runtime.unicode (lockedKeys runtime.unicode endpoint raw) (.obj raw),
        ∀ second ∈ leads runtime.unicode (lockedKeys runtime.unicode endpoint raw) (.obj raw),
          first = second := by
  constructor
  · intro invariant first leading second leading'
    obtain ⟨raw', again, led⟩ := exists_toldAgain nodup leading
    obtain ⟨raw'', again', led'⟩ := exists_toldAgain nodup leading'
    have same := (invariant raw' again).trans (invariant raw'' again').symm
    rw [dedupHash_eq, dedupHash_eq] at same
    have digests := hexdigest_injective same
    have joined : dedupText runtime endpoint raw' = dedupText runtime endpoint raw'' := by
      refine free _ ?_ _ ?_ digests
      · rw [dedupText_toldAgain nodup again, led]
        exact List.mem_append_right _ (List.mem_map_of_mem leading)
      · rw [dedupText_toldAgain nodup again', led']
        exact List.mem_append_right _ (List.mem_map_of_mem leading')
    have fingerprints := (dedupText_inj joined).2
    rw [led, led'] at fingerprints
    exact computeSecretFingerprint_inj free (List.mem_append_left _ leading)
      (List.mem_append_left _ leading') fingerprints
  · intro single raw' again
    have unchanged := unchanged_of_retold (.obj raw) nodup again.2
    exact dedupHash_congr (identityText_of_unchanged unchanged)
      (firstSecret_of_unchanged unchanged single)

/-! A card number beside a password: the one that comes first is hashed. -/

section Samples

def stolenLogin : List (String × Json) :=
  [("usr", .str "jean"), ("pwd", .str "hunter2"), ("found", .str "2026-09-06")]

def stolenWallet : List (String × Json) :=
  [("usr", .str "jean"), ("pwd", .str "hunter2"), ("ccn", .str "4970101234567890")]

theorem dedupHash_toldAgain_login :
    (normalizeFinding plainRuntime "stealer" stolenLogin.reverse).dedupHash =
      (normalizeFinding plainRuntime "stealer" stolenLogin).dedupHash := by
  have turned : stolenLogin.Perm stolenLogin.reverse := (List.reverse_perm _).symm
  have identifiers : extractIdentifier plainRuntime.unicode "stealer" (.obj stolenLogin.reverse) =
      extractIdentifier plainRuntime.unicode "stealer" (.obj stolenLogin) := by decide +kernel
  refine (dedupHash_toldAgain_iff plainRuntime "stealer" stolenLogin ?_ ?_).mpr ?_
    stolenLogin.reverse ⟨identifiers, .single (.permute turned)⟩
  · decide
  · decide +kernel
  · decide +kernel

/-- The same leak with its two secrets the other way round is a new leak. -/
theorem dedupHash_toldAgain_wallet :
    ¬ ∀ raw', ToldAgain plainRuntime.unicode "stealer" stolenWallet raw' →
      (normalizeFinding plainRuntime "stealer" raw').dedupHash =
        (normalizeFinding plainRuntime "stealer" stolenWallet).dedupHash := by
  intro invariant
  have turned : stolenWallet.Perm stolenWallet.reverse := (List.reverse_perm _).symm
  have identifiers : extractIdentifier plainRuntime.unicode "stealer" (.obj stolenWallet.reverse) =
      extractIdentifier plainRuntime.unicode "stealer" (.obj stolenWallet) := by decide +kernel
  have same := invariant stolenWallet.reverse ⟨identifiers, .single (.permute turned)⟩
  revert same
  decide +kernel

end Samples

end RssiService.ThreatIntelligence
