import RssiService.Foundation.Replacement
import RssiService.Python.Json

/-!
# Pseudonymization

Real values leave the platform as stable placeholders.  The correspondence is a
dictionary from real value to placeholder; one alternation, the longest value
first, replaces them all in a single pass over each string.
-/

namespace RssiService.AiAssistant

open Foundation.Replacement Python

/-! ## The correspondence table -/

inductive Kind where
  | company
  | member
  | email
  | url
  | domain
  deriving DecidableEq, Repr

def Kind.name : Kind → String
  | .company => "COMPANY"
  | .member => "MEMBER"
  | .email => "EMAIL"
  | .url => "URL"
  | .domain => "DOMAIN"

/-- A dictionary from real value to placeholder, in insertion order. -/
structure Mapping where
  entries : List (String × String)
  distinct : (entries.map Prod.fst).Nodup
  nonempty : ∀ entry ∈ entries, entry.1 ≠ ""

def Mapping.empty : Mapping := ⟨[], List.nodup_nil, by simp⟩

def Mapping.keys (mapping : Mapping) : List String := mapping.entries.map Prod.fst

def Mapping.placeholders (mapping : Mapping) : List String := mapping.entries.map Prod.snd

instance : Membership String Mapping := ⟨fun mapping value => value ∈ mapping.keys⟩

theorem Mapping.mem_def {mapping : Mapping} {value : String} :
    value ∈ mapping ↔ value ∈ mapping.keys := Iff.rfl

instance (mapping : Mapping) (value : String) : Decidable (value ∈ mapping) :=
  inferInstanceAs (Decidable (value ∈ mapping.keys))

/-- The placeholder of a value; `mapping[value]` is only read for its keys. -/
def Mapping.get (mapping : Mapping) (value : String) : String :=
  (mapping.entries.lookup value).getD ""

/-- Insert a value that is not a key yet. -/
def Mapping.insert (mapping : Mapping) (value placeholder : String)
    (fresh : value ∉ mapping) (filled : value ≠ "") : Mapping where
  entries := mapping.entries ++ [(value, placeholder)]
  distinct := by
    rw [List.map_append, List.nodup_append]
    refine ⟨mapping.distinct, List.nodup_singleton _, ?_⟩
    intro key member other isValue same
    have key_eq : key = value := same.trans (List.mem_singleton.mp isValue)
    exact fresh (key_eq ▸ member)
  nonempty := by
    intro entry member
    rcases List.mem_append.mp member with old | new
    · exact mapping.nonempty entry old
    · rw [List.mem_singleton.mp new]
      exact filled

/-! ## Building the table -/

/-- Counters by kind name; an absent kind counts zero. -/
abbrev Counters := String → Nat

def Counters.set (counters : Counters) (kind : String) (count : Nat) : Counters :=
  fun other => if other = kind then count else counters other

def numberedPlaceholder (kind : String) (index : Nat) : String :=
  "\x7b\x7b" ++ kind ++ "_" ++ toString index ++ "\x7d\x7d"

def companyPlaceholder : String := "\x7b\x7bCOMPANY\x7d\x7d"

/-- Add one value under its kind.  The company has a fixed placeholder, the
other kinds are numbered. -/
def addValue (state : Mapping × Counters) (value : String) (kind : Kind) : Mapping × Counters :=
  let stripped := strip value
  if filled : stripped = "" then state
  else if fresh : stripped ∈ state.1 then state
  else if kind = .company then (state.1.insert stripped companyPlaceholder fresh filled, state.2)
  else
    let index := state.2 kind.name + 1
    (state.1.insert stripped (numberedPlaceholder kind.name index) fresh filled,
      state.2.set kind.name index)

def addValues (state : Mapping × Counters) (values : List (String × Kind)) : Mapping × Counters :=
  values.foldl (fun state value => addValue state value.1 value.2) state

theorem addValues_cons (state : Mapping × Counters) (value : String × Kind)
    (rest : List (String × Kind)) :
    addValues state (value :: rest) = addValues (addValue state value.1 value.2) rest := rfl

def isUpper (symbol : Char) : Bool := 'A' ≤ symbol && symbol ≤ 'Z'

/-- Read a numbered placeholder back: two braces, capitals, an underscore,
digits and two braces, possibly before a final line break. -/
def placeholderIndex (placeholder : String) : Option (String × Nat) :=
  match placeholder.toList with
  | '{' :: '{' :: body =>
      let kind := body.takeWhile isUpper
      match body.dropWhile isUpper with
      | '_' :: tail =>
          let digits := tail.takeWhile Char.isDigit
          let closing := tail.dropWhile Char.isDigit
          if !kind.isEmpty && !digits.isEmpty && (closing = ['}', '}'] || closing = ['}', '}', '\n'])
          then some (String.ofList kind, Nat.ofDigitChars 10 digits 0)
          else none
      | _ => none
  | _ => none

/-- Raise the counter of a numbered placeholder to its index. -/
def resumeCounter (counters : Counters) (placeholder : String) : Counters :=
  match placeholderIndex placeholder with
  | some (kind, index) => counters.set kind (max (counters kind) index)
  | none => counters

/-- Counters that resume after the highest index of each kind. -/
def countersFromMapping (mapping : Mapping) : Counters :=
  mapping.placeholders.foldl resumeCounter fun _ => 0

/-! ## Replacement -/

/-- The alternatives of the pattern, the longest first; no pattern for an empty
table. -/
def buildPattern (mapping : Mapping) : Option (List (List Char)) :=
  if mapping.entries = [] then none
  else some (longestFirst (mapping.keys.map String.toList))

def Mapping.token (mapping : Mapping) (value : List Char) : List Char :=
  (mapping.get (String.ofList value)).toList

def pseudonymizeText (text : String) (mapping : Mapping) : String :=
  if text = "" then text
  else
    match buildPattern mapping with
    | none => text
    | some pattern => String.ofList (render mapping.token (pieces pattern text.toList))

mutual

/-- Pseudonymize every string of a value, dictionary keys excluded. -/
def pseudonymizeValue (mapping : Mapping) : Json → Json
  | .str text => .str (pseudonymizeText text mapping)
  | .obj fields => .obj (pseudonymizeFields mapping fields)
  | .arr items => .arr (pseudonymizeItems mapping items)
  | .null => .null
  | .bool value => .bool value
  | .int value => .int value
  | .float text => .float text

def pseudonymizeItems (mapping : Mapping) : List Json → List Json
  | [] => []
  | item :: rest => pseudonymizeValue mapping item :: pseudonymizeItems mapping rest

def pseudonymizeFields (mapping : Mapping) : List (String × Json) → List (String × Json)
  | [] => []
  | (key, value) :: rest =>
      (key, pseudonymizeValue mapping value) :: pseudonymizeFields mapping rest

end

/-- Put the real values back; equal placeholders give the value entered last. -/
def rehydrateText (text : String) (mapping : Mapping) : String :=
  if text = "" || mapping.entries.isEmpty then text
  else
    let pattern := longestFirst (mapping.placeholders.dedup.map String.toList)
    let real (placeholder : List Char) : List Char :=
      ((mapping.entries.reverse.find? fun entry => entry.2.toList = placeholder).map
        fun entry => entry.1.toList).getD []
    String.ofList (render real (pieces pattern text.toList))

/-! ## The cut of a text by a table -/

/-- The cut of a text by the values of a table. -/
def Mapping.cut (mapping : Mapping) (text : String) : List (Piece Char) :=
  pieces (longestFirst (mapping.keys.map String.toList)) text.toList

/-- The values a table replaces, as character lists. -/
def Mapping.Known (mapping : Mapping) (value : List Char) : Prop :=
  String.ofList value ∈ mapping

theorem Mapping.known_toList {mapping : Mapping} {value : String} :
    mapping.Known value.toList ↔ value ∈ mapping := by
  simp [Mapping.Known]

theorem Mapping.mem_patterns {mapping : Mapping} {value : List Char} :
    value ∈ mapping.keys.map String.toList ↔ mapping.Known value := by
  constructor
  · intro member
    obtain ⟨key, inKeys, rfl⟩ := List.mem_map.mp member
    exact known_toList.mpr inKeys
  · intro known
    exact List.mem_map.mpr ⟨String.ofList value, known, String.toList_ofList⟩

theorem Mapping.ne_empty_of_mem {mapping : Mapping} {value : String} (member : value ∈ mapping) :
    value ≠ "" := by
  obtain ⟨entry, inEntries, rfl⟩ := List.mem_map.mp (mem_def.mp member)
  exact mapping.nonempty entry inEntries

/-- The compiled alternation computes the leftmost-longest cut. -/
theorem Mapping.factors_cut (mapping : Mapping) (text : String) :
    Factors mapping.Known text.toList (mapping.cut text) := by
  have nonempty : [] ∉ mapping.keys.map String.toList := by
    intro member
    exact ne_empty_of_mem (mem_patterns.mp member) rfl
  have factors := factors_pieces nonempty text.toList
  simp only [mem_patterns] at factors
  exact factors

theorem pseudonymizeText_eq (text : String) (mapping : Mapping) :
    pseudonymizeText text mapping = String.ofList (render mapping.token (mapping.cut text)) := by
  unfold pseudonymizeText buildPattern
  cases empty : decide (text = "") with
  | true =>
      have text_eq : text = "" := of_decide_eq_true empty
      subst text_eq
      rfl
  | false =>
      rw [if_neg (of_decide_eq_false empty)]
      cases none_entered : decide (mapping.entries = []) with
      | true =>
          have entries_eq : mapping.entries = [] := of_decide_eq_true none_entered
          have cut_eq : mapping.cut text = text.toList.map .kept := by
            have keys_eq : mapping.keys = [] := by simp [Mapping.keys, entries_eq]
            rw [Mapping.cut, keys_eq]
            exact pieces_no_alternatives text.toList
          rw [if_pos entries_eq, cut_eq, render_map_kept, String.ofList_toList]
      | false =>
          rw [if_neg (of_decide_eq_false none_entered)]
          rfl

section Leaves

variable {mapping : Mapping}

theorem strings_pseudonymizeItems {items : List Json}
    (each : ∀ item ∈ items, (pseudonymizeValue mapping item).strings =
      item.strings.map fun text => pseudonymizeText text mapping) :
    Json.stringsItems (pseudonymizeItems mapping items) =
      (Json.stringsItems items).map fun text => pseudonymizeText text mapping := by
  induction items with
  | nil => rfl
  | cons item rest ih =>
      have here := each item List.mem_cons_self
      have later := ih fun other member => each other (List.mem_cons_of_mem _ member)
      simp only [pseudonymizeItems, Json.stringsItems, here, later, List.map_append]

theorem strings_pseudonymizeFields {fields : List (String × Json)}
    (each : ∀ field ∈ fields, (pseudonymizeValue mapping field.2).strings =
      field.2.strings.map fun text => pseudonymizeText text mapping) :
    Json.stringsFields (pseudonymizeFields mapping fields) =
      (Json.stringsFields fields).map fun text => pseudonymizeText text mapping := by
  induction fields with
  | nil => rfl
  | cons field rest ih =>
      have here := each field List.mem_cons_self
      have later := ih fun other member => each other (List.mem_cons_of_mem _ member)
      simp only [pseudonymizeFields, Json.stringsFields, here, later, List.map_append]

/-- The string leaves of a pseudonymized value are its leaves, pseudonymized one
by one. -/
theorem strings_pseudonymizeValue (mapping : Mapping) (value : Json) :
    (pseudonymizeValue mapping value).strings =
      value.strings.map fun text => pseudonymizeText text mapping := by
  induction value with
  | null => rfl
  | bool value => rfl
  | int value => rfl
  | float text => rfl
  | str text => rfl
  | arr items ih => exact strings_pseudonymizeItems ih
  | obj fields ih => exact strings_pseudonymizeFields ih

end Leaves

/-! ## What a pseudonymized text shows -/

/-- The shape of the placeholders that `addValue` writes. -/
def IsPlaceholder (token : String) : Prop :=
  token = companyPlaceholder ∨
    ∃ kind index, kind ≠ "" ∧ kind.toList.all isUpper ∧ token = numberedPlaceholder kind index

def BraceFree (value : String) : Prop :=
  '{' ∉ value.toList ∧ '}' ∉ value.toList

instance (value : String) : Decidable (BraceFree value) :=
  inferInstanceAs (Decidable ('{' ∉ value.toList ∧ '}' ∉ value.toList))

theorem fenced_placeholder {token value : String} (placeholder : IsPlaceholder token)
    (braceFree : BraceFree value) : Fenced token.toList value.toList := by
  have braced : ∃ inner, token.toList = '{' :: inner ++ ['}'] := by
    rcases placeholder with rfl | ⟨kind, index, _, _, rfl⟩
    · exact ⟨"\x7bCOMPANY\x7d".toList, rfl⟩
    · refine ⟨'{' :: kind.toList ++ '_' :: (toString index).toList ++ ['}'], ?_⟩
      simp [numberedPlaceholder]
  obtain ⟨inner, spelled⟩ := braced
  rw [spelled]
  refine ⟨by simp, ?_, ?_⟩
  · intro symbol first
    cases first
    exact braceFree.1
  · intro symbol last
    rw [List.getLast?_concat] at last
    cases last
    exact braceFree.2

/-- The placeholder read back from a table is one of its placeholders. -/
theorem Mapping.get_mem {mapping : Mapping} {value : String} (member : value ∈ mapping) :
    (value, mapping.get value) ∈ mapping.entries := by
  obtain ⟨entry, inEntries, key_eq⟩ := List.mem_map.mp (mem_def.mp member)
  unfold Mapping.get
  cases found : mapping.entries.lookup value with
  | none =>
      have absent := List.lookup_eq_none_iff.mp found entry inEntries
      simp [key_eq] at absent
  | some placeholder =>
      obtain ⟨before, after, split, _⟩ := List.lookup_eq_some_iff.mp found
      simp [split]

/-- Every occurrence of a real value in a string leaf of a pseudonymized value
lies inside one inserted placeholder. -/
theorem pseudonymizeValue_conceals (mapping : Mapping)
    (shaped : ∀ entry ∈ mapping.entries, BraceFree entry.1 ∧ IsPlaceholder entry.2)
    (value : Json) :
    ∀ leaf ∈ (pseudonymizeValue mapping value).strings, ∃ text ∈ value.strings,
      leaf = String.ofList (render mapping.token (mapping.cut text)) ∧
        source (mapping.cut text) = text.toList ∧
          ∀ real ∈ mapping, ∀ before after, leaf.toList = before ++ real.toList ++ after →
            InsideToken mapping.token (mapping.cut text) before real.toList after := by
  intro leaf member
  rw [strings_pseudonymizeValue] at member
  obtain ⟨text, inside, rfl⟩ := List.mem_map.mp member
  have factors := mapping.factors_cut text
  refine ⟨text, inside, pseudonymizeText_eq text mapping, factors.source_eq, ?_⟩
  intro real known before after occurs
  rw [pseudonymizeText_eq, String.toList_ofList] at occurs
  refine factors.occurrence_inside (Mapping.known_toList.mpr known) ?_ ?_ occurs
  · intro empty
    exact Mapping.ne_empty_of_mem known (String.toList_eq_nil_iff.mp empty)
  · intro origin origin_known
    have entered := Mapping.get_mem origin_known
    have realEntered := Mapping.get_mem known
    exact fenced_placeholder (shaped _ entered).2 (shaped _ realEntered).1

/-- A company whose name is inside its own domain. -/
def acmeMapping : Mapping where
  entries := [("Acme", companyPlaceholder), ("acme.fr", numberedPlaceholder "DOMAIN" 1),
    ("contact@acme.fr", numberedPlaceholder "EMAIL" 1)]
  distinct := by decide
  nonempty := by decide

def acmeContext : Json :=
  .obj [("raison_sociale", .str "Acme"), ("contacts", .arr [.str "contact@acme.fr"])]

theorem pseudonymizeValue_conceals_acme :
    (pseudonymizeValue acmeMapping acmeContext).strings =
        [companyPlaceholder, numberedPlaceholder "EMAIL" 1] ∧
      ∀ leaf ∈ (pseudonymizeValue acmeMapping acmeContext).strings,
        ∃ text ∈ acmeContext.strings,
          leaf = String.ofList (render acmeMapping.token (acmeMapping.cut text)) ∧
            source (acmeMapping.cut text) = text.toList ∧
              ∀ real ∈ acmeMapping, ∀ before after, leaf.toList = before ++ real.toList ++ after →
                InsideToken acmeMapping.token (acmeMapping.cut text) before real.toList after := by
  refine ⟨by decide +kernel, pseudonymizeValue_conceals acmeMapping ?_ acmeContext⟩
  intro entry member
  simp only [acmeMapping, List.mem_cons, List.not_mem_nil, or_false] at member
  rcases member with rfl | rfl | rfl
  · exact ⟨by decide, Or.inl rfl⟩
  · exact ⟨by decide, Or.inr ⟨"DOMAIN", 1, by decide, by decide, rfl⟩⟩
  · exact ⟨by decide, Or.inr ⟨"EMAIL", 1, by decide, by decide, rfl⟩⟩

end RssiService.AiAssistant
