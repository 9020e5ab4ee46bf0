import RssiService.Foundation.Replacement

/-!
# Templates

A template is a text that holds variables, names between an opening and a
closing symbol.  Its cut replaces the variables and keeps the other symbols.
Replacing the variables one name after the other, in any order, is the same as
replacing them all at once.  Values put in the place of variables leave a
variable behind exactly where the variables themselves stood in a name.
-/

namespace Foundation.Template

open Replacement

variable {Symbol : Type*}

/-- How variables are written. -/
structure Delimiters (Symbol : Type*) where
  opening : Symbol
  closing : Symbol
  starts : Symbol → Bool
  continues : Symbol → Bool
  opening_ne_closing : opening ≠ closing
  continues_opening : continues opening = false
  continues_closing : continues closing = false
  continues_of_starts : ∀ {symbol}, starts symbol = true → continues symbol = true

namespace Delimiters

variable (delimiters : Delimiters Symbol)

def IsName (name : List Symbol) : Prop :=
  ∃ first rest, name = first :: rest ∧ delimiters.starts first = true ∧
    ∀ symbol ∈ rest, delimiters.continues symbol = true

/-- The variable of a name. -/
def wrap (name : List Symbol) : List Symbol :=
  delimiters.opening :: (name ++ [delimiters.closing])

/-- The name of a variable. -/
def unwrap (written : List Symbol) : List Symbol := (written.drop 1).dropLast

def IsVariable (written : List Symbol) : Prop :=
  ∃ name, delimiters.IsName name ∧ written = delimiters.wrap name

variable {delimiters}

@[simp]
theorem unwrap_wrap (name : List Symbol) : unwrap (delimiters.wrap name) = name := by
  simp [unwrap, wrap]

theorem wrap_injective {first second : List Symbol}
    (same : delimiters.wrap first = delimiters.wrap second) : first = second := by
  rw [← unwrap_wrap first, same, unwrap_wrap]

theorem IsName.continues {name : List Symbol} (isName : delimiters.IsName name) :
    ∀ symbol ∈ name, delimiters.continues symbol = true := by
  obtain ⟨first, rest, rfl, starts, continues⟩ := isName
  intro symbol member
  rcases List.mem_cons.mp member with rfl | later
  · exact delimiters.continues_of_starts starts
  · exact continues symbol later

theorem ne_opening_of_continues {symbol : Symbol}
    (continues : delimiters.continues symbol = true) : symbol ≠ delimiters.opening := by
  rintro rfl
  simp [delimiters.continues_opening] at continues

theorem ne_closing_of_continues {symbol : Symbol}
    (continues : delimiters.continues symbol = true) : symbol ≠ delimiters.closing := by
  rintro rfl
  simp [delimiters.continues_closing] at continues

theorem IsVariable.ne_nil {written : List Symbol} (isVariable : delimiters.IsVariable written) :
    written ≠ [] := by
  obtain ⟨name, _, rfl⟩ := isVariable
  exact List.cons_ne_nil _ _

/-- The first closing symbol ends the name. -/
theorem takeWhile_name {name : List Symbol} (rest : List Symbol)
    (continues : ∀ symbol ∈ name, delimiters.continues symbol = true) :
    (name ++ delimiters.closing :: rest).takeWhile delimiters.continues = name := by
  rw [List.takeWhile_append_of_pos continues,
    List.takeWhile_cons_of_neg (by simp [delimiters.continues_closing]), List.append_nil]

/-- One variable does not start another. -/
theorem eq_of_wrap_prefix {first second : List Symbol} (isName : delimiters.IsName first)
    (isName' : delimiters.IsName second) {rest : List Symbol}
    (begins : delimiters.wrap first <+: delimiters.wrap second ++ rest) : first = second := by
  obtain ⟨tail, spelled⟩ := begins
  have names : first ++ delimiters.closing :: tail = second ++ delimiters.closing :: rest := by
    simpa [wrap] using spelled
  rw [← takeWhile_name tail isName.continues, names, takeWhile_name rest isName'.continues]

end Delimiters

/-- Where every symbol is kept no value stands. -/
theorem not_infix_of_kept {Values : List Symbol → Prop} {text : List Symbol}
    {pieces : List (Piece Symbol)} (factors : Factors Values text pieces)
    (kept : ∀ written, .replaced written ∉ pieces) {value : List Symbol} (known : Values value)
    (nonempty : value ≠ []) : ¬ value <:+: text := by
  induction factors with
  | nil => simpa using nonempty
  | keep unmatched tail ih =>
      rw [List.infix_cons_iff, not_or]
      exact ⟨unmatched value known, ih fun written member =>
        kept written (List.mem_cons_of_mem _ member)⟩
  | replace known' nonempty' longest tail ih => exact absurd List.mem_cons_self (kept _)

/-! ## Reading the variables -/

section Reading

variable [DecidableEq Symbol] (delimiters : Delimiters Symbol)

/-- The name of the variable that starts the text. -/
def nameAt : List Symbol → Option (List Symbol)
  | [] => none
  | symbol :: rest =>
      let name := rest.takeWhile delimiters.continues
      if symbol = delimiters.opening ∧ name.head?.any delimiters.starts ∧
          (rest.dropWhile delimiters.continues).head? = some delimiters.closing then
        some name
      else none

/-- One left-to-right pass; the symbols of a variable are skipped. -/
def scan : Nat → List Symbol → List (Piece Symbol)
  | _, [] => []
  | skip + 1, _ :: rest => scan skip rest
  | 0, symbol :: rest =>
      match nameAt delimiters (symbol :: rest) with
      | some name => .replaced (delimiters.wrap name) :: scan (name.length + 1) rest
      | none => .kept symbol :: scan 0 rest

def cut (text : List Symbol) : List (Piece Symbol) := scan delimiters 0 text

/-- The names of the variables of a text, in order. -/
def names (text : List Symbol) : List (List Symbol) :=
  (cut delimiters text).filterMap fun
    | .kept _ => none
    | .replaced written => some (Delimiters.unwrap written)

variable {delimiters}

theorem nameAt_eq_some {text name : List Symbol} :
    nameAt delimiters text = some name ↔
      delimiters.IsName name ∧ delimiters.wrap name <+: text := by
  cases text with
  | nil => simp [nameAt, Delimiters.wrap]
  | cons symbol rest =>
      simp only [nameAt, Option.ite_none_right_eq_some, Option.some.injEq]
      constructor
      · rintro ⟨⟨rfl, starts, closed⟩, rfl⟩
        obtain ⟨after, later⟩ := List.head?_eq_some_iff.mp closed
        refine ⟨?_, after, ?_⟩
        · have all := List.all_takeWhile (p := delimiters.continues) (l := rest)
          cases shape : rest.takeWhile delimiters.continues with
          | nil => simp [shape] at starts
          | cons first others =>
              rw [shape, List.all_eq_true] at all
              exact ⟨first, others, rfl, by simpa [shape] using starts,
                fun symbol member => all symbol (List.mem_cons_of_mem _ member)⟩
        · calc delimiters.wrap (rest.takeWhile delimiters.continues) ++ after
              = delimiters.opening :: (rest.takeWhile delimiters.continues ++
                  rest.dropWhile delimiters.continues) := by simp [Delimiters.wrap, later]
            _ = delimiters.opening :: rest := by rw [List.takeWhile_append_dropWhile]
      · rintro ⟨isName, tail, spelled⟩
        have spelled' :
            delimiters.opening :: (name ++ delimiters.closing :: tail) = symbol :: rest := by
          simpa [Delimiters.wrap] using spelled
        obtain ⟨rfl, rfl⟩ := List.cons.inj spelled'
        have name_eq := Delimiters.takeWhile_name tail isName.continues
        refine ⟨⟨rfl, ?_, ?_⟩, name_eq⟩
        · obtain ⟨first, others, rfl, starts, _⟩ := isName
          rw [name_eq]
          simpa using starts
        · rw [List.dropWhile_append_of_pos isName.continues,
            List.dropWhile_cons_of_neg (by simp [delimiters.continues_closing])]
          rfl

theorem nameAt_eq_none {text : List Symbol} :
    nameAt delimiters text = none ↔
      ∀ written, delimiters.IsVariable written → ¬ written <+: text := by
  constructor
  · rintro absent written ⟨name, isName, rfl⟩ begins
    rw [nameAt_eq_some.mpr ⟨isName, begins⟩] at absent
    cases absent
  · intro none
    cases found : nameAt delimiters text with
    | none => rfl
    | some name =>
        obtain ⟨isName, begins⟩ := nameAt_eq_some.mp found
        exact absurd begins (none _ ⟨name, isName, rfl⟩)

theorem factors_scan (skip : Nat) (text : List Symbol) :
    Factors delimiters.IsVariable (text.drop skip) (scan delimiters skip text) := by
  induction text generalizing skip with
  | nil => simpa [scan] using Factors.nil
  | cons symbol rest ih =>
      cases skip with
      | succ skip => exact ih skip
      | zero =>
          cases found : nameAt delimiters (symbol :: rest) with
          | none =>
              simp only [scan, found, List.drop_zero]
              exact Factors.keep (nameAt_eq_none.mp found) (ih 0)
          | some name =>
              obtain ⟨isName, tail, spelled⟩ := nameAt_eq_some.mp found
              have spelled' :
                  delimiters.opening :: (name ++ delimiters.closing :: tail) = symbol :: rest := by
                simpa [Delimiters.wrap] using spelled
              obtain ⟨rfl, rfl⟩ := List.cons.inj spelled'
              have after := ih (name.length + 1)
              rw [List.drop_append, List.drop_eq_nil_of_le (Nat.le_succ _)] at after
              simp only [Nat.add_sub_cancel_left, List.drop_succ_cons, List.drop_zero,
                List.nil_append] at after
              have longest : ∀ other, delimiters.IsVariable other →
                  other <+: delimiters.wrap name ++ tail →
                    other.length ≤ (delimiters.wrap name).length := by
                rintro other ⟨name', isName', rfl⟩ begins
                rw [Delimiters.eq_of_wrap_prefix isName' isName begins]
              have cutHere : Factors delimiters.IsVariable (delimiters.wrap name ++ tail)
                  (.replaced (delimiters.wrap name) :: scan delimiters (name.length + 1)
                    (name ++ delimiters.closing :: tail)) :=
                Factors.replace ⟨name, isName, rfl⟩ (List.cons_ne_nil _ _) longest after
              rw [spelled] at cutHere
              simpa only [scan, found, List.drop_zero] using cutHere

/-- The pass cuts a text at its variables. -/
theorem factors_cut (text : List Symbol) :
    Factors delimiters.IsVariable text (cut delimiters text) :=
  factors_scan 0 text

theorem source_cut (text : List Symbol) : source (cut delimiters text) = text :=
  (factors_cut text).source_eq

/-- The names of a text are the names of the variables of its cut. -/
theorem mem_names {text name : List Symbol} :
    name ∈ names delimiters text ↔
      delimiters.IsName name ∧ .replaced (delimiters.wrap name) ∈ cut delimiters text := by
  rw [names, List.mem_filterMap]
  constructor
  · rintro ⟨piece, member, found⟩
    cases piece with
    | kept symbol => cases found
    | replaced written =>
        obtain ⟨name', isName, rfl⟩ := (factors_cut text).known_of_replaced member
        obtain rfl : name' = name := by simpa using found
        exact ⟨isName, member⟩
  · rintro ⟨isName, member⟩
    exact ⟨_, member, by simp⟩

/-- A text has no name exactly when no variable stands in it. -/
theorem names_eq_nil {text : List Symbol} :
    names delimiters text = [] ↔
      ∀ written, delimiters.IsVariable written → ¬ written <:+: text := by
  constructor
  · intro none written isVariable
    refine not_infix_of_kept (factors_cut text) ?_ isVariable isVariable.ne_nil
    intro other member
    obtain ⟨name, isName, rfl⟩ := (factors_cut text).known_of_replaced member
    have named : name ∈ names delimiters text := mem_names.mpr ⟨isName, member⟩
    rw [none] at named
    cases named
  · intro none
    rw [List.eq_nil_iff_forall_not_mem]
    intro name member
    obtain ⟨isName, replaced⟩ := mem_names.mp member
    obtain ⟨front, back, split⟩ := List.append_of_mem replaced
    refine none _ ⟨name, isName, rfl⟩ ⟨source front, source back, ?_⟩
    rw [← source_cut text, split, source_append, source_cons, List.append_assoc]
    rfl

end Reading

/-! ## Filling the variables -/

section Filling

variable {delimiters : Delimiters Symbol}

namespace Delimiters

/-- A value that continues a name but does not start one, a number for instance. -/
def IsNumeral (delimiters : Delimiters Symbol) (value : List Symbol) : Prop :=
  value ≠ [] ∧ ∀ symbol ∈ value,
    delimiters.continues symbol = true ∧ delimiters.starts symbol = false

/-- A name whose symbols could all start a name. -/
def IsPlain (delimiters : Delimiters Symbol) (name : List Symbol) : Prop :=
  ∀ symbol ∈ name, delimiters.starts symbol = true

end Delimiters

theorem render_append {token : List Symbol → List Symbol} (front back : List (Piece Symbol)) :
    render token (front ++ back) = render token front ++ render token back :=
  List.flatMap_append

theorem render_congr {token other : List Symbol → List Symbol} {pieces : List (Piece Symbol)}
    (agree : ∀ written, .replaced written ∈ pieces → token written = other written) :
    render token pieces = render other pieces := by
  induction pieces with
  | nil => rfl
  | cons piece rest ih =>
      rw [render_cons, render_cons,
        ih fun written member => agree written (List.mem_cons_of_mem _ member)]
      cases piece with
      | kept symbol => rfl
      | replaced written => rw [Piece.render, Piece.render, agree written List.mem_cons_self]

/-- Variables that stay as they are spell the text. -/
theorem render_id (pieces : List (Piece Symbol)) :
    render (fun written => written) pieces = source pieces := by
  induction pieces with
  | nil => rfl
  | cons piece rest ih =>
      rw [render_cons, source_cons, ih]
      cases piece <;> rfl

/-- The values of some names; the other variables stay as they are. -/
def fill (values : List Symbol → Option (List Symbol)) (written : List Symbol) : List Symbol :=
  (values (Delimiters.unwrap written)).getD written

/-- A stretch of name symbols that starts a filled text starts the template. -/
theorem prefix_source {values : List Symbol → Option (List Symbol)}
    (numerals : ∀ name value, values name = some value → delimiters.IsNumeral value)
    {pieces : List (Piece Symbol)}
    (wraps : ∀ written, .replaced written ∈ pieces → delimiters.IsVariable written)
    {stretch : List Symbol}
    (plain : ∀ symbol ∈ stretch, delimiters.starts symbol = true ∨ symbol = delimiters.closing)
    (begins : stretch <+: render (fill values) pieces) : stretch <+: source pieces := by
  induction pieces generalizing stretch with
  | nil => exact begins
  | cons piece rest ih =>
      cases stretch with
      | nil => exact List.nil_prefix
      | cons head tail =>
          cases piece with
          | kept symbol =>
              obtain ⟨rfl, later⟩ := List.cons_prefix_cons.mp begins
              refine List.cons_prefix_cons.mpr ⟨rfl, ih ?_ ?_ later⟩
              · exact fun written member => wraps written (List.mem_cons_of_mem _ member)
              · exact fun symbol member => plain symbol (List.mem_cons_of_mem _ member)
          | replaced written =>
              exfalso
              have headPlain := plain head List.mem_cons_self
              obtain ⟨name, isName, rfl⟩ := wraps written List.mem_cons_self
              rw [render_cons, Piece.render, fill, Delimiters.unwrap_wrap] at begins
              cases filled : values name with
              | none =>
                  rw [filled] at begins
                  obtain ⟨rfl, _⟩ := List.cons_prefix_cons.mp begins
                  rcases headPlain with starts | closing
                  · exact Delimiters.ne_opening_of_continues
                      (delimiters.continues_of_starts starts) rfl
                  · exact delimiters.opening_ne_closing closing
              | some value =>
                  obtain ⟨nonempty, numeral⟩ := numerals name value filled
                  rw [filled] at begins
                  obtain ⟨first, others, rfl⟩ := List.exists_cons_of_ne_nil nonempty
                  obtain ⟨rfl, _⟩ := List.cons_prefix_cons.mp begins
                  obtain ⟨continues, notStarts⟩ := numeral head List.mem_cons_self
                  rcases headPlain with starts | closing
                  · rw [starts] at notStarts
                    cases notStarts
                  · exact Delimiters.ne_closing_of_continues continues closing

/-- A stretch without an opening symbol that starts a template starts it filled. -/
theorem prefix_render {token : List Symbol → List Symbol} {pieces : List (Piece Symbol)}
    (wraps : ∀ written, .replaced written ∈ pieces → delimiters.IsVariable written)
    {stretch : List Symbol} (unopened : delimiters.opening ∉ stretch)
    (begins : stretch <+: source pieces) : stretch <+: render token pieces := by
  induction pieces generalizing stretch with
  | nil => exact begins
  | cons piece rest ih =>
      cases stretch with
      | nil => exact List.nil_prefix
      | cons head tail =>
          cases piece with
          | kept symbol =>
              obtain ⟨rfl, later⟩ := List.cons_prefix_cons.mp begins
              exact List.cons_prefix_cons.mpr ⟨rfl,
                ih (fun written member => wraps written (List.mem_cons_of_mem _ member))
                  (fun member => unopened (List.mem_cons_of_mem _ member)) later⟩
          | replaced written =>
              obtain ⟨name, _, rfl⟩ := wraps written List.mem_cons_self
              obtain ⟨rfl, _⟩ := List.cons_prefix_cons.mp begins
              exact absurd List.mem_cons_self unopened

/-- Symbols where the values do not start are kept. -/
theorem factors_kept_append {Values : List Symbol → Prop} {opening : Symbol}
    (opened : ∀ value, Values value → ∃ tail, value = opening :: tail)
    {text : List Symbol} {pieces : List (Piece Symbol)} (factors : Factors Values text pieces)
    {stretch : List Symbol} (apart : opening ∉ stretch) :
    Factors Values (stretch ++ text) (stretch.map .kept ++ pieces) := by
  induction stretch with
  | nil => exact factors
  | cons symbol rest ih =>
      refine Factors.keep ?_ (ih fun member => apart (List.mem_cons_of_mem _ member))
      intro value known begins
      obtain ⟨tail, rfl⟩ := opened value known
      obtain ⟨rfl, _⟩ := List.cons_prefix_cons.mp begins
      exact apart List.mem_cons_self

/-- The cut of a filled text by one more variable. -/
def reopened [DecidableEq Symbol] (values : List Symbol → Option (List Symbol))
    (target : List Symbol) : Piece Symbol → List (Piece Symbol)
  | .kept symbol => [.kept symbol]
  | .replaced written =>
      if written = target then [.replaced written] else (fill values written).map .kept

variable [DecidableEq Symbol]

theorem factors_reopened {values : List Symbol → Option (List Symbol)}
    (numerals : ∀ name value, values name = some value → delimiters.IsNumeral value)
    {name : List Symbol} (isName : delimiters.IsName name) (plain : delimiters.IsPlain name)
    (unfilled : values name = none) {text : List Symbol} {pieces : List (Piece Symbol)}
    (factors : Factors delimiters.IsVariable text pieces) :
    Factors (· ∈ [delimiters.wrap name]) (render (fill values) pieces)
      (pieces.flatMap (reopened values (delimiters.wrap name))) := by
  have opened : ∀ value, value ∈ [delimiters.wrap name] →
      ∃ tail, value = delimiters.opening :: tail := by
    rintro value member
    exact ⟨_, List.mem_singleton.mp member⟩
  induction factors with
  | nil => exact Factors.nil
  | @keep symbol rest pieces unmatched tail ih =>
      refine Factors.keep ?_ ih
      rintro value member begins
      obtain rfl := List.mem_singleton.mp member
      obtain ⟨rfl, later⟩ := List.cons_prefix_cons.mp begins
      have inSource : name ++ [delimiters.closing] <+: source pieces := by
        refine prefix_source numerals (fun written => tail.known_of_replaced) ?_ later
        intro symbol member
        rcases List.mem_append.mp member with inName | last
        · exact .inl (plain symbol inName)
        · exact .inr (List.mem_singleton.mp last)
      rw [tail.source_eq] at inSource
      exact unmatched _ ⟨name, isName, rfl⟩ (List.cons_prefix_cons.mpr ⟨rfl, inSource⟩)
  | @replace written rest pieces known nonempty longest tail ih =>
      rw [render_cons, List.flatMap_cons, Piece.render, reopened]
      obtain ⟨other, isName', rfl⟩ := known
      rw [fill, Delimiters.unwrap_wrap]
      split
      case isTrue same =>
        obtain rfl := Delimiters.wrap_injective same
        rw [unfilled, Option.getD_none]
        refine Factors.replace List.mem_cons_self nonempty ?_ ih
        intro value member _
        rw [List.mem_singleton.mp member]
      case isFalse differs =>
        cases filled : values other with
        | some value =>
            refine factors_kept_append opened ih fun member => ?_
            exact Delimiters.ne_opening_of_continues
              ((numerals other value filled).2 _ member).1 rfl
        | none =>
            -- the variable stays: only its first symbol could open the target
            refine Factors.keep ?_ (factors_kept_append opened ih ?_)
            · rintro value member begins
              obtain rfl := List.mem_singleton.mp member
              exact differs (congrArg delimiters.wrap
                (Delimiters.eq_of_wrap_prefix isName isName' begins).symm)
            · intro member
              rcases List.mem_append.mp member with inName | last
              · exact Delimiters.ne_opening_of_continues (isName'.continues _ inName) rfl
              · exact delimiters.opening_ne_closing (List.mem_singleton.mp last)

/-- Every occurrence of one text, from left to right, becomes another. -/
def replaceAll (old new text : List Symbol) : List Symbol :=
  render (fun _ => new) (Replacement.pieces [old] text)

theorem factors_pieces_singleton {old : List Symbol} (nonempty : old ≠ []) (text : List Symbol) :
    Factors (· ∈ [old]) text (Replacement.pieces [old] text) := by
  have apart : ([] : List Symbol) ∉ [old] := by simpa using nonempty.symm
  exact factors_pieces apart text

/-- Replacing one more variable fills one more name. -/
theorem replaceAll_render {values : List Symbol → Option (List Symbol)}
    (numerals : ∀ name value, values name = some value → delimiters.IsNumeral value)
    {name : List Symbol} (isName : delimiters.IsName name) (plain : delimiters.IsPlain name)
    (unfilled : values name = none) (value : List Symbol) {text : List Symbol}
    {pieces : List (Piece Symbol)} (factors : Factors delimiters.IsVariable text pieces) :
    replaceAll (delimiters.wrap name) value (render (fill values) pieces) =
      render (fill (Function.update values name (some value))) pieces := by
  have reopen := factors_reopened numerals isName plain unfilled factors
  have target_ne : delimiters.wrap name ≠ [] := List.cons_ne_nil _ _
  rw [replaceAll, (factors_pieces_singleton target_ne _).unique _ reopen]
  clear reopen
  induction factors with
  | nil => rfl
  | keep unmatched tail ih => exact congrArg (_ :: ·) ih
  | @replace written rest pieces known nonempty longest tail ih =>
      obtain ⟨other, _, rfl⟩ := known
      rw [List.flatMap_cons, reopened, render_cons, Piece.render, ← ih]
      split
      case isTrue same =>
        obtain rfl := Delimiters.wrap_injective same
        rw [fill, Delimiters.unwrap_wrap, Function.update_self]
        rfl
      case isFalse differs =>
        have other_ne : other ≠ name := fun same => differs (congrArg delimiters.wrap same)
        rw [fill, fill, Delimiters.unwrap_wrap, Function.update_of_ne other_ne, render_append,
          render_map_kept]

/-- The values of the names of a list. -/
def given (value : List Symbol → List Symbol) (keys : List (List Symbol)) (name : List Symbol) :
    Option (List Symbol) :=
  if name ∈ keys then some (value name) else none

theorem update_given (value : List Symbol → List Symbol) (keys : List (List Symbol))
    (key : List Symbol) :
    Function.update (given value keys) key (some (value key)) = given value (keys ++ [key]) := by
  funext name
  by_cases same : name = key
  · subst same
    simp [given]
  · simp [given, same]

section Successive

variable {value : List Symbol → List Symbol} {keys : List (List Symbol)}

/-- Replacing one name after the other fills the names done so far. -/
theorem foldl_replaceAll {done : List (List Symbol)} (nodup : (done ++ keys).Nodup)
    (isName : ∀ key ∈ keys, delimiters.IsName key) (plain : ∀ key ∈ keys, delimiters.IsPlain key)
    (numeral : ∀ key ∈ done ++ keys, delimiters.IsNumeral (value key)) {text : List Symbol}
    {pieces : List (Piece Symbol)} (factors : Factors delimiters.IsVariable text pieces) :
    keys.foldl (fun text key => replaceAll (delimiters.wrap key) (value key) text)
        (render (fill (given value done)) pieces) =
      render (fill (given value (done ++ keys))) pieces := by
  induction keys generalizing done with
  | nil => rw [List.append_nil]; rfl
  | cons key rest ih =>
      have fresh : key ∉ done := fun member =>
        (List.nodup_append.mp nodup).2.2 key member key List.mem_cons_self rfl
      have numerals : ∀ name filled, given value done name = some filled →
          delimiters.IsNumeral filled := by
        intro name filled found
        obtain ⟨member, same⟩ := Option.ite_none_right_eq_some.mp found
        rw [← Option.some.inj same]
        exact numeral name (List.mem_append_left _ member)
      rw [List.foldl_cons, replaceAll_render numerals (isName key List.mem_cons_self)
        (plain key List.mem_cons_self) (by simp [given, fresh]) (value key) factors, update_given]
      rw [List.append_cons done key rest] at nodup numeral ⊢
      exact ih nodup (fun name member => isName name (List.mem_cons_of_mem _ member))
        (fun name member => plain name (List.mem_cons_of_mem _ member)) numeral

/-- Replacing every name in turn fills the text at once. -/
theorem foldl_replaceAll_cut (nodup : keys.Nodup) (isName : ∀ key ∈ keys, delimiters.IsName key)
    (plain : ∀ key ∈ keys, delimiters.IsPlain key)
    (numeral : ∀ key ∈ keys, delimiters.IsNumeral (value key)) {text : List Symbol}
    (covered : ∀ name ∈ names delimiters text, name ∈ keys) :
    keys.foldl (fun text key => replaceAll (delimiters.wrap key) (value key) text) text =
      render (fun written => value (Delimiters.unwrap written)) (cut delimiters text) := by
  have factors : Factors delimiters.IsVariable text (cut delimiters text) := factors_cut text
  have unfilled : render (fill (given value [])) (cut delimiters text) = text :=
    (render_id _).trans factors.source_eq
  calc
    keys.foldl (fun text key => replaceAll (delimiters.wrap key) (value key) text) text
        = keys.foldl (fun text key => replaceAll (delimiters.wrap key) (value key) text)
            (render (fill (given value [])) (cut delimiters text)) := by rw [unfilled]
    _ = render (fill (given value keys)) (cut delimiters text) := by
        have fresh : ([] ++ keys).Nodup := nodup
        exact foldl_replaceAll fresh isName plain numeral factors
    _ = render (fun written => value (Delimiters.unwrap written)) (cut delimiters text) := by
        refine render_congr fun written member => ?_
        obtain ⟨name, named, rfl⟩ := factors.known_of_replaced member
        have known := covered name (mem_names.mpr ⟨named, member⟩)
        rw [fill, Delimiters.unwrap_wrap, given, if_pos known, Option.getD_some]

end Successive

end Filling

/-! ## Counting a mark -/

section Counting

/-- How often a text occurs, from left to right and without overlap. -/
def occurrences [DecidableEq Symbol] (part text : List Symbol) : Nat :=
  ((Replacement.pieces [part] text).filter fun
    | .kept _ => false
    | .replaced _ => true).length

/-- A text that starts before a symbol and does not hold it ends before it. -/
theorem exists_beyond {value tail before rest : List Symbol} {symbol : Symbol}
    (absent : symbol ∉ value) (same : value ++ tail = before ++ symbol :: rest) :
    ∃ beyond, before = value ++ beyond ∧ tail = beyond ++ symbol :: rest := by
  rcases List.append_eq_append_iff.mp same with
    ⟨beyond, inside, later⟩ | ⟨beyond, across, reached⟩
  · exact ⟨beyond, inside, later⟩
  · cases beyond with
    | nil =>
        rw [List.append_nil] at across
        exact ⟨[], by rw [across, List.append_nil], reached.symm⟩
    | cons head others =>
        obtain ⟨rfl, _⟩ := List.cons.inj reached
        refine absurd ?_ absent
        rw [across]
        exact List.mem_append_right before List.mem_cons_self

/-- Two cuts on both sides of symbols that are not in the only value. -/
theorem factors_around {part : List Symbol} {text : List Symbol} {pieces : List (Piece Symbol)}
    (factors : Factors (· ∈ [part]) text pieces) {stretch : List Symbol} (gap : stretch ≠ [])
    (apart : ∀ symbol ∈ stretch, symbol ∉ part) (nonempty : part ≠ []) {later : List Symbol}
    {others : List (Piece Symbol)} (after : Factors (· ∈ [part]) later others) :
    Factors (· ∈ [part]) (text ++ (stretch ++ later))
      (pieces ++ (stretch.map .kept ++ others)) := by
  induction factors with
  | nil =>
      obtain ⟨first, rest, rfl⟩ := List.exists_cons_of_ne_nil nonempty
      refine factors_kept_append ?_ after fun member => apart first member List.mem_cons_self
      rintro value member
      exact ⟨rest, List.mem_singleton.mp member⟩
  | @keep symbol rest pieces unmatched tail ih =>
      refine Factors.keep ?_ ih
      rintro value member begins
      obtain rfl := List.mem_singleton.mp member
      obtain ⟨beyond, spelled⟩ := begins
      obtain ⟨first, others, rfl⟩ := List.exists_cons_of_ne_nil gap
      have spelled' : value ++ beyond = (symbol :: rest) ++ first :: (others ++ later) := spelled
      obtain ⟨after, inside, _⟩ := exists_beyond (apart first List.mem_cons_self) spelled'
      exact unmatched value List.mem_cons_self ⟨after, inside.symm⟩
  | @replace written rest pieces known nonempty' longest tail ih =>
      rw [List.append_assoc, List.cons_append]
      refine Factors.replace known nonempty' ?_ ih
      intro other member _
      rw [List.mem_singleton.mp member, List.mem_singleton.mp known]

variable [DecidableEq Symbol]

theorem occurrences_around {part : List Symbol} (nonempty : part ≠ []) (text later : List Symbol)
    {stretch : List Symbol} (gap : stretch ≠ []) (apart : ∀ symbol ∈ stretch, symbol ∉ part) :
    occurrences part (text ++ (stretch ++ later)) =
      occurrences part text + occurrences part later := by
  have whole := factors_around (factors_pieces_singleton nonempty text) gap apart nonempty
    (factors_pieces_singleton nonempty later)
  rw [occurrences, ← whole.unique _ (factors_pieces_singleton nonempty _), List.filter_append,
    List.filter_append, List.filter_map]
  simp [occurrences, Function.comp_def]

/-- Symbols that are not in a text part it as well as any others. -/
theorem occurrences_render {part : List Symbol} (nonempty : part ≠ [])
    {token other : List Symbol → List Symbol} {pieces : List (Piece Symbol)}
    (apart : ∀ written, .replaced written ∈ pieces →
      token written ≠ [] ∧ ∀ symbol ∈ token written, symbol ∉ part)
    (apart' : ∀ written, .replaced written ∈ pieces →
      other written ≠ [] ∧ ∀ symbol ∈ other written, symbol ∉ part) (front : List Symbol) :
    occurrences part (front ++ render token pieces) =
      occurrences part (front ++ render other pieces) := by
  induction pieces generalizing front with
  | nil => rfl
  | cons piece rest ih =>
      have later := ih (fun written member => apart written (List.mem_cons_of_mem _ member))
        (fun written member => apart' written (List.mem_cons_of_mem _ member))
      cases piece with
      | kept symbol => simpa [Piece.render] using later (front ++ [symbol])
      | replaced written =>
          obtain ⟨gap, free⟩ := apart written List.mem_cons_self
          obtain ⟨gap', free'⟩ := apart' written List.mem_cons_self
          rw [render_cons, render_cons, Piece.render, Piece.render,
            occurrences_around nonempty _ _ gap free, occurrences_around nonempty _ _ gap' free']
          exact congrArg (_ + ·) (later [])

/-- A text that does not occur does not count. -/
theorem occurrences_eq_zero {part text : List Symbol} (nonempty : part ≠ []) :
    occurrences part text = 0 ↔ ¬ part <:+: text := by
  have factors := factors_pieces_singleton nonempty text
  rw [occurrences, List.length_eq_zero_iff, List.filter_eq_nil_iff]
  constructor
  · intro kept
    exact not_infix_of_kept factors (fun written member => kept _ member rfl)
      List.mem_cons_self nonempty
  · intro absent piece member
    cases piece with
    | kept symbol => exact Bool.false_ne_true
    | replaced written =>
        obtain rfl := List.mem_singleton.mp (factors.known_of_replaced member)
        obtain ⟨front, back, split⟩ := List.append_of_mem member
        refine absurd ⟨source front, source back, ?_⟩ absent
        rw [← factors.source_eq, split, source_append, source_cons, List.append_assoc]
        rfl

end Counting

/-! ## Variables within a name -/

section Nesting

variable {delimiters : Delimiters Symbol}

/-- A piece that reads as a part of a name once the variables are numerals. -/
def Continues (delimiters : Delimiters Symbol) : Piece Symbol → Prop
  | .kept symbol => delimiters.continues symbol = true
  | .replaced _ => True

/-- Some opening symbol outside the variables is followed by the start of a name,
by symbols of a name or variables, and by a closing symbol. -/
def Nested (delimiters : Delimiters Symbol) (pieces : List (Piece Symbol)) : Prop :=
  ∃ front first inner back,
    pieces = front ++ .kept delimiters.opening :: .kept first ::
      (inner ++ .kept delimiters.closing :: back) ∧
    delimiters.starts first = true ∧ ∀ piece ∈ inner, Continues delimiters piece

variable {token : List Symbol → List Symbol}

/-- A stretch of name symbols up to a closing symbol is rendered by pieces of a name. -/
theorem exists_inner {pieces : List (Piece Symbol)}
    (numeral : ∀ written, .replaced written ∈ pieces → delimiters.IsNumeral (token written))
    {stretch rest : List Symbol}
    (continues : ∀ symbol ∈ stretch, delimiters.continues symbol = true)
    (spelled : render token pieces = stretch ++ delimiters.closing :: rest) :
    ∃ inner back, pieces = inner ++ .kept delimiters.closing :: back ∧
      ∀ piece ∈ inner, Continues delimiters piece := by
  induction pieces generalizing stretch with
  | nil => simp at spelled
  | cons piece others ih =>
      have numeral' : ∀ written, .replaced written ∈ others →
          delimiters.IsNumeral (token written) :=
        fun written member => numeral written (List.mem_cons_of_mem _ member)
      cases piece with
      | kept symbol =>
          cases stretch with
          | nil =>
              obtain ⟨rfl, _⟩ := List.cons.inj spelled
              exact ⟨[], others, rfl, fun piece member => absurd member List.not_mem_nil⟩
          | cons head tail =>
              obtain ⟨rfl, later⟩ := List.cons.inj spelled
              obtain ⟨inner, back, split, all⟩ := ih numeral'
                (fun symbol member => continues symbol (List.mem_cons_of_mem _ member)) later
              refine ⟨.kept symbol :: inner, back, congrArg (_ :: ·) split, ?_⟩
              intro piece member
              rcases List.mem_cons.mp member with rfl | inside
              · exact continues symbol List.mem_cons_self
              · exact all piece inside
      | replaced written =>
          obtain ⟨_, symbols⟩ := numeral written List.mem_cons_self
          -- the numeral holds no closing symbol, so the stretch goes beyond it
          have unclosed : delimiters.closing ∉ token written := fun inValue =>
            absurd rfl (Delimiters.ne_closing_of_continues (symbols _ inValue).1)
          have tokens : token written ++ render token others =
              stretch ++ delimiters.closing :: rest := spelled
          obtain ⟨tail, rfl, later⟩ := exists_beyond unclosed tokens
          obtain ⟨inner, back, split, all⟩ := ih numeral'
            (fun symbol member => continues symbol (List.mem_append_right _ member)) later
          refine ⟨.replaced written :: inner, back, congrArg (_ :: ·) split, ?_⟩
          intro piece member
          rcases List.mem_cons.mp member with rfl | inside
          · exact trivial
          · exact all piece inside

/-- The place of a variable in a rendered text whose numerals hold no delimiter. -/
theorem exists_opening {pieces : List (Piece Symbol)}
    (numeral : ∀ written, .replaced written ∈ pieces → delimiters.IsNumeral (token written))
    {before rest : List Symbol}
    (spelled : render token pieces = before ++ delimiters.opening :: rest) :
    ∃ front later, pieces = front ++ .kept delimiters.opening :: later ∧
      render token later = rest := by
  induction pieces generalizing before with
  | nil => simp at spelled
  | cons piece others ih =>
      have numeral' : ∀ written, .replaced written ∈ others →
          delimiters.IsNumeral (token written) :=
        fun written member => numeral written (List.mem_cons_of_mem _ member)
      have further {tail : List Symbol}
          (spelled : render token others = tail ++ delimiters.opening :: rest) :
          ∃ front later, piece :: others = front ++ .kept delimiters.opening :: later ∧
            render token later = rest := by
        obtain ⟨front, later, split, found⟩ := ih numeral' spelled
        exact ⟨piece :: front, later, congrArg (piece :: ·) split, found⟩
      cases piece with
      | kept symbol =>
          cases before with
          | nil =>
              obtain ⟨rfl, later⟩ := List.cons.inj spelled
              exact ⟨[], others, rfl, later⟩
          | cons head tail =>
              obtain ⟨rfl, later⟩ := List.cons.inj spelled
              exact further later
      | replaced written =>
          have tokens : token written ++ render token others =
              before ++ delimiters.opening :: rest := spelled
          have unopened : delimiters.opening ∉ token written := fun inValue =>
            absurd rfl (Delimiters.ne_opening_of_continues
              ((numeral written List.mem_cons_self).2 _ inValue).1)
          obtain ⟨tail, _, later⟩ := exists_beyond unopened tokens
          exact further later

theorem continues_of_render {inner : List (Piece Symbol)}
    (numeral : ∀ written, .replaced written ∈ inner → delimiters.IsNumeral (token written))
    (continues : ∀ piece ∈ inner, Continues delimiters piece) :
    ∀ symbol ∈ render token inner, delimiters.continues symbol = true := by
  intro symbol member
  obtain ⟨piece, inInner, inPiece⟩ := List.mem_flatMap.mp member
  cases piece with
  | kept kept =>
      obtain rfl := List.mem_singleton.mp inPiece
      exact continues _ inInner
  | replaced written => exact ((numeral written inInner).2 symbol inPiece).1

/-- Numerals leave a variable behind exactly when variables stood within a name. -/
theorem exists_variable_render {pieces : List (Piece Symbol)}
    (numeral : ∀ written, .replaced written ∈ pieces → delimiters.IsNumeral (token written)) :
    (∃ written, delimiters.IsVariable written ∧ written <:+: render token pieces) ↔
      Nested delimiters pieces := by
  constructor
  · rintro ⟨written, ⟨name, ⟨first, others, rfl, starts, continues⟩, rfl⟩, before, after, spelled⟩
    have opened : render token pieces =
        before ++ delimiters.opening :: first :: (others ++ delimiters.closing :: after) := by
      rw [← spelled]
      simp [Delimiters.wrap]
    obtain ⟨front, later, rfl, spelled'⟩ := exists_opening numeral opened
    have numeral' : ∀ written, .replaced written ∈ later →
        delimiters.IsNumeral (token written) := fun written member =>
      numeral written (List.mem_append_right _ (List.mem_cons_of_mem _ member))
    cases later with
    | nil => cases spelled'
    | cons piece pieces =>
        cases piece with
        | replaced written =>
            -- a numeral does not start a name
            obtain ⟨nonempty, symbols⟩ := numeral' written List.mem_cons_self
            obtain ⟨head, tail, isToken⟩ := List.exists_cons_of_ne_nil nonempty
            rw [render_cons, Piece.render, isToken] at spelled'
            obtain ⟨rfl, _⟩ := List.cons.inj spelled'
            have notStarts := (symbols head (by rw [isToken]; exact List.mem_cons_self)).2
            rw [starts] at notStarts
            cases notStarts
        | kept symbol =>
            obtain ⟨rfl, closed⟩ := List.cons.inj spelled'
            obtain ⟨inner, back, rfl, all⟩ := exists_inner
              (fun written member => numeral' written (List.mem_cons_of_mem _ member))
              continues closed
            exact ⟨front, symbol, inner, back, rfl, starts, all⟩
  · rintro ⟨front, first, inner, back, rfl, starts, all⟩
    refine ⟨delimiters.wrap (first :: render token inner),
      ⟨_, ⟨first, _, rfl, starts, continues_of_render ?_ all⟩, rfl⟩,
      render token front, render token back, ?_⟩
    · intro written member
      exact numeral written (List.mem_append_right _ (List.mem_cons_of_mem _
        (List.mem_cons_of_mem _ (List.mem_append_left _ member))))
    · simp [Delimiters.wrap, render_append, Piece.render]

end Nesting

end Foundation.Template
