import Mathlib.Data.List.Dedup
import RssiService.AiAssistant.Pseudonymization

/-!
# Rehydration

The answer that comes back is read once more, from left to right, for the
placeholders of the table.  Two placeholders never overlap: the opening braces
stand at the start only and the first closing brace ends the name.
-/

namespace RssiService.AiAssistant

open Foundation.Replacement Python

/-! ## The shape of a placeholder -/

/-- Two opening braces, a name without brace, two closing braces. -/
def Braced (token : List Char) : Prop :=
  ∃ name, token = '{' :: '{' :: (name ++ ['}', '}']) ∧ name ≠ [] ∧ '{' ∉ name ∧ '}' ∉ name

theorem not_mem_of_isUpper {name : List Char} (upper : name.all isUpper) {symbol : Char}
    (other : isUpper symbol = false) : symbol ∉ name := by
  intro member
  have isUp := List.all_eq_true.mp upper symbol member
  rw [other] at isUp
  cases isUp

theorem not_mem_toString {index : Nat} {symbol : Char} (other : symbol.isDigit = false) :
    symbol ∉ (toString index).toList := by
  intro member
  have digit := Nat.isDigit_of_mem_toDigits (by decide) (by decide)
    (show symbol ∈ Nat.toDigits 10 index by simpa using member)
  rw [other] at digit
  cases digit

theorem IsPlaceholder.braced {token : String} (placeholder : IsPlaceholder token) :
    Braced token.toList := by
  rcases placeholder with rfl | ⟨kind, index, filled, upper, rfl⟩
  · exact ⟨"COMPANY".toList, rfl, by decide, by decide, by decide⟩
  · refine ⟨kind.toList ++ '_' :: (toString index).toList, ?_, ?_, ?_, ?_⟩
    · simp [numberedPlaceholder]
    · simp
    · simp only [List.mem_append, List.mem_cons, not_or]
      exact ⟨not_mem_of_isUpper upper (by decide), by decide, not_mem_toString (by decide)⟩
    · simp only [List.mem_append, List.mem_cons, not_or]
      exact ⟨not_mem_of_isUpper upper (by decide), by decide, not_mem_toString (by decide)⟩

theorem takeWhile_closed {name : List Char} (unclosed : '}' ∉ name) {rest : List Char} :
    (name ++ '}' :: rest).takeWhile (fun symbol => symbol ≠ '}') = name := by
  rw [List.takeWhile_append_of_pos, List.takeWhile_cons_of_neg (by simp), List.append_nil]
  intro symbol member
  exact decide_eq_true (fun same => unclosed (same ▸ member))

/-- The closing braces tell where a placeholder ends. -/
theorem Braced.eq_of_prefix {first second : List Char} (braced : Braced first)
    (other : Braced second) (begins : first <+: second) : first = second := by
  obtain ⟨name, rfl, _, _, unclosed⟩ := braced
  obtain ⟨name', rfl, _, _, unclosed'⟩ := other
  obtain ⟨rest, spelled⟩ := begins
  have names : name ++ '}' :: ('}' :: rest) = name' ++ '}' :: ['}'] := by
    simpa using spelled
  have name_eq := congrArg (List.takeWhile fun symbol => symbol ≠ '}') names
  rw [takeWhile_closed unclosed, takeWhile_closed unclosed'] at name_eq
  rw [name_eq]

/-- What follows the first symbols of a placeholder opens no placeholder. -/
theorem Braced.lead_eq_nil {lead stub : List Char} (braced : Braced (lead ++ stub))
    (opened : ['{', '{'] <+: stub) : lead = [] := by
  obtain ⟨name, spelled, filled, unopened, _⟩ := braced
  obtain ⟨rest, rfl⟩ := opened
  have noBrace : '{' ∉ name ++ ['}', '}'] := by simpa using unopened
  match lead with
  | [] => rfl
  | [first] =>
      -- The second opening brace would be followed by a third one.
      have tail : '{' :: rest = name ++ ['}', '}'] := by
        have cut := (List.cons.inj spelled).2
        exact (List.cons.inj cut).2
      exact absurd (tail ▸ List.mem_cons_self) noBrace
  | first :: second :: others =>
      have tail : others ++ (['{', '{'] ++ rest) = name ++ ['}', '}'] := by
        have cut := (List.cons.inj spelled).2
        exact (List.cons.inj cut).2
      exact absurd (tail ▸ (by simp)) noBrace

theorem Braced.opened {token : List Char} (braced : Braced token) : ['{', '{'] <+: token := by
  obtain ⟨name, rfl, _⟩ := braced
  exact ⟨name ++ ['}', '}'], rfl⟩

theorem Braced.getLast?_eq {token : List Char} (braced : Braced token) :
    token.getLast? = some '}' := by
  obtain ⟨name, rfl, _⟩ := braced
  have regrouped : '{' :: '{' :: (name ++ ['}', '}']) = ('{' :: '{' :: name ++ ['}']) ++ ['}'] := by
    simp
  rw [regrouped]
  exact List.getLast?_concat

/-- What is left of a placeholder begins with two braces if it meets another one. -/
theorem Braced.opened_of_meets {lead stub second : List Char} (braced : Braced (lead ++ stub))
    (other : Braced second) (filled : stub ≠ []) (meets : stub <+: second ∨ second <+: stub) :
    ['{', '{'] <+: stub := by
  rcases meets with within | around
  · rcases List.prefix_or_prefix_of_prefix within other.opened with short | long
    · have last := braced.getLast?_eq
      match stub with
      | [] => exact absurd rfl filled
      | [symbol] =>
          have symbol_eq : symbol = '{' := (List.cons_prefix_cons.mp short).1
          rw [List.getLast?_concat, symbol_eq] at last
          cases last
      | first :: second :: rest =>
          obtain ⟨rfl, rest_short⟩ := List.cons_prefix_cons.mp short
          obtain ⟨rfl, _⟩ := List.cons_prefix_cons.mp rest_short
          exact ⟨rest, rfl⟩
    · exact long
  · exact other.opened.trans around

/-- Placeholders do not overlap. -/
theorem separate_braced {Tokens : List Char → Prop}
    (shaped : ∀ token, Tokens token → Braced token) : Separate Tokens := by
  intro first second isFirst isSecond lead stub spelled filled meets
  have braced := shaped first isFirst
  have other := shaped second isSecond
  rw [spelled] at braced
  have lead_eq := braced.lead_eq_nil (braced.opened_of_meets other filled meets)
  subst lead_eq
  rw [List.nil_append] at spelled braced
  subst spelled
  refine ⟨rfl, ?_⟩
  rcases meets with within | around
  · exact braced.eq_of_prefix other within
  · exact (other.eq_of_prefix braced around).symm

/-! ## The way back -/

section RoundTrip

variable {mapping : Mapping}

/-- The placeholders of a table, as character lists. -/
def Mapping.Inserted (mapping : Mapping) (token : List Char) : Prop :=
  String.ofList token ∈ mapping.placeholders

theorem Mapping.mem_inserted {token : List Char} :
    token ∈ mapping.placeholders.dedup.map String.toList ↔ mapping.Inserted token := by
  constructor
  · intro member
    obtain ⟨placeholder, inTable, rfl⟩ := List.mem_map.mp member
    rw [Inserted, String.ofList_toList]
    exact List.mem_dedup.mp inTable
  · intro inserted
    exact List.mem_map.mpr ⟨String.ofList token, List.mem_dedup.mpr inserted, String.toList_ofList⟩

/-- `{placeholder: real}`: the value entered last under a placeholder. -/
def Mapping.real (mapping : Mapping) (placeholder : List Char) : List Char :=
  ((mapping.entries.reverse.find? fun entry => entry.2.toList = placeholder).map
    fun entry => entry.1.toList).getD []

theorem rehydrateText_eq (text : String) (mapping : Mapping) :
    rehydrateText text mapping = String.ofList (render mapping.real
      (pieces (longestFirst (mapping.placeholders.dedup.map String.toList)) text.toList)) := by
  unfold rehydrateText
  split
  · next nothing =>
      rcases Bool.or_eq_true_iff.mp nothing with empty | none_entered
      · have text_eq : text = "" := of_decide_eq_true empty
        subst text_eq
        rfl
      · have placeholders_eq : mapping.placeholders = [] := by
          simp [Mapping.placeholders, List.isEmpty_iff.mp none_entered]
        rw [placeholders_eq]
        have kept := pieces_no_alternatives text.toList
        rw [List.dedup_nil, List.map_nil, kept, render_map_kept, String.ofList_toList]
  · rfl

/-- Where no placeholder is given twice, a value is read back from its own. -/
theorem Mapping.real_token (injective : mapping.placeholders.Nodup) {value : List Char}
    (known : mapping.Known value) : mapping.real (mapping.token value) = value := by
  have entered := Mapping.get_mem known
  have present := List.mem_reverse.mpr entered
  unfold Mapping.real
  cases found : mapping.entries.reverse.find? fun entry =>
      entry.2.toList = mapping.token value with
  | none =>
      have absent := List.find?_eq_none.mp found _ present
      simp [Mapping.token] at absent
  | some entry =>
      have member := List.mem_reverse.mp (List.mem_of_find?_eq_some found)
      have spelled : entry.2.toList = mapping.token value := by
        simpa using List.find?_some found
      have same : entry.2 = mapping.get (String.ofList value) := String.toList_injective spelled
      have entry_eq : entry = (String.ofList value, mapping.get (String.ofList value)) :=
        List.inj_on_of_nodup_map injective member entered same
      rw [entry_eq]
      exact String.toList_ofList

/-- Rehydration undoes pseudonymization on every text that holds no placeholder
of the table. -/
theorem rehydrateText_pseudonymizeText (mapping : Mapping)
    (shaped : ∀ placeholder ∈ mapping.placeholders, IsPlaceholder placeholder)
    (injective : mapping.placeholders.Nodup) (text : String)
    (clear : ∀ placeholder ∈ mapping.placeholders, ¬ placeholder.toList <:+: text.toList) :
    rehydrateText (pseudonymizeText text mapping) mapping = text := by
  have braced : ∀ token, mapping.Inserted token → Braced token := by
    intro token inserted
    have placeholder := (shaped _ inserted).braced
    rwa [String.toList_ofList] at placeholder
  have filled : ∀ token, mapping.Inserted token → token ≠ [] := by
    rintro _ inserted rfl
    exact absurd (braced [] inserted).opened (by simp)
  have inserts : ∀ value, mapping.Known value →
      mapping.Inserted (mapping.token value) ∧ mapping.token value ≠ [] := by
    intro value known
    have inserted : mapping.Inserted (mapping.token value) := by
      rw [Mapping.Inserted, Mapping.token, String.ofList_toList]
      exact List.mem_map.mpr ⟨_, Mapping.get_mem known, rfl⟩
    exact ⟨inserted, filled _ inserted⟩
  have absent : ∀ token, mapping.Inserted token → ¬ token <:+: text.toList := by
    intro token inserted
    have outside := clear _ inserted
    rwa [String.toList_ofList] at outside
  have cut := mapping.factors_cut text
  have tokens_cut := cut.inserted (separate_braced braced) inserts
    (fun inserted => filled [] inserted rfl) absent
  have nonempty : [] ∉ mapping.placeholders.dedup.map String.toList :=
    fun member => filled [] (Mapping.mem_inserted.mp member) rfl
  have computed := factors_pieces nonempty (render mapping.token (mapping.cut text))
  simp only [Mapping.mem_inserted] at computed
  rw [pseudonymizeText_eq, rehydrateText_eq, String.toList_ofList,
    computed.unique _ tokens_cut, render_inserted, cut.source_eq, String.ofList_toList]
  intro value member
  exact Mapping.real_token injective (cut.known_of_replaced member)

end RoundTrip

/-- Values inside one another, and placeholders that begin alike. -/
def nestedMapping : Mapping where
  entries := [("acme", companyPlaceholder), ("acme.fr", numberedPlaceholder "DOMAIN" 1),
    ("a@acme.fr", numberedPlaceholder "EMAIL" 1), ("ba@acme.fr", numberedPlaceholder "EMAIL" 10)]
  distinct := by decide
  nonempty := by decide

def bracedText : String := "\x7b\x7bEMAIL_\x7ba@acme.fr\x7d, \x7bba@acme.fracme\x7d\x7d"

theorem rehydrateText_pseudonymizeText_nested :
    pseudonymizeText bracedText nestedMapping ≠ bracedText ∧
      rehydrateText (pseudonymizeText bracedText nestedMapping) nestedMapping = bracedText := by
  refine ⟨by decide +kernel, ?_⟩
  refine rehydrateText_pseudonymizeText nestedMapping ?_ (by decide) bracedText (by decide +kernel)
  intro placeholder member
  simp only [nestedMapping, Mapping.placeholders, List.map_cons, List.map_nil, List.mem_cons,
    List.not_mem_nil, or_false] at member
  rcases member with rfl | rfl | rfl | rfl
  · exact Or.inl rfl
  · exact Or.inr ⟨"DOMAIN", 1, by decide, by decide, rfl⟩
  · exact Or.inr ⟨"EMAIL", 1, by decide, by decide, rfl⟩
  · exact Or.inr ⟨"EMAIL", 10, by decide, by decide, rfl⟩

end RssiService.AiAssistant
