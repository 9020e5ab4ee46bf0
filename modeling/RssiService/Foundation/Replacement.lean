import Mathlib.Data.List.Sort
import Mathlib.Data.List.Infix

/-!
# Leftmost-longest replacement

A text is cut, from left to right, into symbols that are kept and occurrences of
known values that are replaced by tokens.  `Factors` says which cut that is for
a set of values; `pieces` computes it from a list of alternatives, the longest
first, tried in order at each position.  The occurrence theorems say what can
still be read in the rendered text.  Tokens that do not overlap can be replaced
back.
-/

namespace Foundation.Replacement

variable {Symbol : Type*}

/-- One piece of a cut text. -/
inductive Piece (Symbol : Type*) where
  | kept (symbol : Symbol)
  | replaced (value : List Symbol)
  deriving DecidableEq, Repr

/-- The part of the text a piece was cut from. -/
def Piece.source : Piece Symbol → List Symbol
  | .kept symbol => [symbol]
  | .replaced value => value

/-- What a piece is sent as. -/
def Piece.render (token : List Symbol → List Symbol) : Piece Symbol → List Symbol
  | .kept symbol => [symbol]
  | .replaced value => token value

def source (pieces : List (Piece Symbol)) : List Symbol :=
  pieces.flatMap Piece.source

def render (token : List Symbol → List Symbol) (pieces : List (Piece Symbol)) : List Symbol :=
  pieces.flatMap (Piece.render token)

section Rendering

variable {token : List Symbol → List Symbol}

@[simp]
theorem render_nil : render token [] = [] := rfl

@[simp]
theorem render_cons (piece : Piece Symbol) (rest : List (Piece Symbol)) :
    render token (piece :: rest) = piece.render token ++ render token rest := rfl

@[simp]
theorem source_cons (piece : Piece Symbol) (rest : List (Piece Symbol)) :
    source (piece :: rest) = piece.source ++ source rest := rfl

@[simp]
theorem source_append (front back : List (Piece Symbol)) :
    source (front ++ back) = source front ++ source back :=
  List.flatMap_append

@[simp]
theorem source_map_kept (symbols : List Symbol) :
    source (symbols.map Piece.kept) = symbols := by
  induction symbols with
  | nil => rfl
  | cons symbol rest ih => simp [Piece.source, ih]

@[simp]
theorem render_map_kept (symbols : List Symbol) :
    render token (symbols.map Piece.kept) = symbols := by
  induction symbols with
  | nil => rfl
  | cons symbol rest ih => simp [Piece.render, ih]

end Rendering

/-! ## The cut of a text by a set of values -/

/-- The leftmost-longest cut: a symbol is kept where no value starts, and where
values start the longest of them is replaced. -/
inductive Factors (Values : List Symbol → Prop) : List Symbol → List (Piece Symbol) → Prop
  | nil : Factors Values [] []
  | keep {symbol : Symbol} {rest : List Symbol} {pieces : List (Piece Symbol)}
      (unmatched : ∀ value, Values value → ¬ value <+: symbol :: rest)
      (tail : Factors Values rest pieces) :
      Factors Values (symbol :: rest) (.kept symbol :: pieces)
  | replace {value rest : List Symbol} {pieces : List (Piece Symbol)}
      (known : Values value) (nonempty : value ≠ [])
      (longest : ∀ other, Values other → other <+: value ++ rest → other.length ≤ value.length)
      (tail : Factors Values rest pieces) :
      Factors Values (value ++ rest) (.replaced value :: pieces)

namespace Factors

variable {Values : List Symbol → Prop} {text : List Symbol}

/-- The pieces of a cut spell the text. -/
theorem source_eq {pieces : List (Piece Symbol)} (factors : Factors Values text pieces) :
    source pieces = text := by
  induction factors with
  | nil => rfl
  | keep unmatched tail ih => simp [Piece.source, ih]
  | replace known nonempty longest tail ih => simp [Piece.source, ih]

/-- Only known values are replaced. -/
theorem known_of_replaced {pieces : List (Piece Symbol)} (factors : Factors Values text pieces)
    {value : List Symbol} (member : .replaced value ∈ pieces) : Values value := by
  induction factors with
  | nil => cases member
  | keep unmatched tail ih =>
      rcases List.mem_cons.mp member with impossible | later
      · cases impossible
      · exact ih later
  | replace known nonempty longest tail ih =>
      rcases List.mem_cons.mp member with here | later
      · cases here
        exact known
      · exact ih later

/-- The cut of a text is unique. -/
theorem unique {first : List (Piece Symbol)} (factors : Factors Values text first) :
    ∀ second, Factors Values text second → first = second := by
  induction factors with
  | nil =>
      intro second other
      generalize empty : ([] : List Symbol) = text at other
      cases other with
      | nil => rfl
      | keep unmatched tail => cases empty
      | replace known nonempty longest tail =>
          exact absurd (List.append_eq_nil_iff.mp empty.symm).1 nonempty
  | @keep symbol rest pieces unmatched tail ih =>
      intro second other
      generalize same : symbol :: rest = text at other
      cases other with
      | nil => cases same
      | keep _ tail' =>
          cases same
          rw [ih _ tail']
      | replace known _ _ _ =>
          exact absurd ⟨_, same.symm⟩ (unmatched _ known)
  | @replace value rest pieces known nonempty longest tail ih =>
      intro second other
      generalize same : value ++ rest = text at other
      cases other with
      | nil => exact absurd (List.append_eq_nil_iff.mp same).1 nonempty
      | keep unmatched tail' => exact absurd ⟨rest, same⟩ (unmatched value known)
      | @replace value' rest' pieces' known' nonempty' longest' tail' =>
          have le := longest value' known' ⟨rest', same.symm⟩
          have ge := longest' value known ⟨rest, same⟩
          obtain ⟨rfl, rfl⟩ := List.append_inj same (Nat.le_antisymm ge le)
          rw [ih _ tail']

/-- The end of a cut is the cut of the end of the text. -/
theorem suffix {front back : List (Piece Symbol)}
    (factors : Factors Values text (front ++ back)) : Factors Values (source back) back := by
  induction front generalizing text with
  | nil =>
      have spelled : source back = text := factors.source_eq
      rw [spelled]
      exact factors
  | cons piece rest ih =>
      cases factors with
      | keep unmatched tail => exact ih tail
      | replace known nonempty longest tail => exact ih tail

/-- No value starts at a kept symbol. -/
theorem unmatched_of_kept {symbol : Symbol} {pieces : List (Piece Symbol)}
    (factors : Factors Values text (.kept symbol :: pieces)) :
    ∀ value, Values value → ¬ value <+: text := by
  cases factors with
  | keep unmatched tail => exact unmatched

end Factors

/-! ## Computing the cut -/

section Order

/-- The order of the alternatives. -/
def NotShorter (first second : List Symbol) : Prop := second.length ≤ first.length

instance : DecidableRel (NotShorter : List Symbol → List Symbol → Prop) :=
  fun first second => inferInstanceAs (Decidable (second.length ≤ first.length))

instance : Std.Total (NotShorter : List Symbol → List Symbol → Prop) :=
  ⟨fun first second => Nat.le_total second.length first.length⟩

instance : IsTrans (List Symbol) NotShorter :=
  ⟨fun _ _ _ first second => Nat.le_trans second first⟩

/-- Sort the alternatives, the longest first; equal lengths keep their order. -/
def longestFirst (alternatives : List (List Symbol)) : List (List Symbol) :=
  alternatives.insertionSort NotShorter

theorem mem_longestFirst {alternatives : List (List Symbol)} {value : List Symbol} :
    value ∈ longestFirst alternatives ↔ value ∈ alternatives :=
  List.mem_insertionSort NotShorter

theorem pairwise_longestFirst (alternatives : List (List Symbol)) :
    (longestFirst alternatives).Pairwise NotShorter :=
  List.pairwise_insertionSort NotShorter alternatives

end Order

section Scan

variable [DecidableEq Symbol]

/-- The first alternative that starts the text. -/
def firstMatch (alternatives : List (List Symbol)) (text : List Symbol) : Option (List Symbol) :=
  alternatives.find? fun value => value.isPrefixOf text

/-- One left-to-right pass; the symbols of a replaced value are skipped. -/
def scan (alternatives : List (List Symbol)) : Nat → List Symbol → List (Piece Symbol)
  | _, [] => []
  | skip + 1, _ :: rest => scan alternatives skip rest
  | 0, symbol :: rest =>
      match firstMatch alternatives (symbol :: rest) with
      | some value => .replaced value :: scan alternatives (value.length - 1) rest
      | none => .kept symbol :: scan alternatives 0 rest

def pieces (alternatives : List (List Symbol)) (text : List Symbol) : List (Piece Symbol) :=
  scan alternatives 0 text

theorem firstMatch_eq_none {alternatives : List (List Symbol)} {text : List Symbol} :
    firstMatch alternatives text = none ↔ ∀ value ∈ alternatives, ¬ value <+: text := by
  simp [firstMatch]

/-- With the longest alternatives first, the first match is the longest. -/
theorem firstMatch_eq_some {alternatives : List (List Symbol)}
    (sorted : alternatives.Pairwise NotShorter)
    {text value : List Symbol} (found : firstMatch alternatives text = some value) :
    value ∈ alternatives ∧ value <+: text ∧
      ∀ other ∈ alternatives, other <+: text → other.length ≤ value.length := by
  obtain ⟨isPrefix, before, after, split, earlier⟩ := List.find?_eq_some_iff_append.mp found
  refine ⟨by simp [split], List.isPrefixOf_iff_prefix.mp isPrefix, ?_⟩
  intro other member otherPrefix
  rw [split, List.pairwise_append, List.pairwise_cons] at sorted
  rw [split, List.mem_append, List.mem_cons] at member
  rcases member with inBefore | rfl | inAfter
  · have absent := earlier other inBefore
    simp [List.isPrefixOf_iff_prefix.mpr otherPrefix] at absent
  · exact Nat.le_refl _
  · exact sorted.2.1.1 other inAfter

theorem factors_scan {alternatives : List (List Symbol)}
    (sorted : alternatives.Pairwise NotShorter)
    (nonempty : [] ∉ alternatives) (skip : Nat) (text : List Symbol) :
    Factors (· ∈ alternatives) (text.drop skip) (scan alternatives skip text) := by
  induction text generalizing skip with
  | nil => simpa [scan] using Factors.nil
  | cons symbol rest ih =>
      cases skip with
      | succ skip => exact ih skip
      | zero =>
          cases found : firstMatch alternatives (symbol :: rest) with
          | none =>
              simp only [scan, found, List.drop_zero]
              exact Factors.keep (firstMatch_eq_none.mp found) (ih 0)
          | some value =>
              obtain ⟨known, ⟨later, spelled⟩, longest⟩ := firstMatch_eq_some sorted found
              simp only [scan, found, List.drop_zero]
              cases value with
              | nil => exact absurd known nonempty
              | cons head tail =>
                  obtain ⟨rfl, rfl⟩ := List.cons.inj spelled
                  have after := ih tail.length
                  have rest_eq : (tail.append later).drop tail.length = later :=
                    List.drop_left
                  rw [rest_eq] at after
                  exact Factors.replace known (List.cons_ne_nil _ _) longest after

/-- Without alternatives every symbol is kept. -/
theorem pieces_no_alternatives (text : List Symbol) :
    pieces (longestFirst []) text = text.map .kept := by
  induction text with
  | nil => rfl
  | cons symbol rest ih => exact congrArg (Piece.kept symbol :: ·) ih

/-- The pass over the alternatives, longest first, is the leftmost-longest cut. -/
theorem factors_pieces {alternatives : List (List Symbol)} (nonempty : [] ∉ alternatives)
    (text : List Symbol) :
    Factors (· ∈ alternatives) text (pieces (longestFirst alternatives) text) := by
  have factors := factors_scan (pairwise_longestFirst alternatives)
    (fun member => nonempty (mem_longestFirst.mp member)) 0 text
  simp only [mem_longestFirst] at factors
  exact factors

end Scan

/-! ## What can still be read -/

/-- A token whose ends do not occur in the value. -/
structure Fenced (token value : List Symbol) : Prop where
  nonempty : token ≠ []
  opened : ∀ symbol ∈ token.head?, symbol ∉ value
  closed : ∀ symbol ∈ token.getLast?, symbol ∉ value

/-- The occurrence of `value` after `before` lies inside one inserted token. -/
def InsideToken (token : List Symbol → List Symbol) (pieces : List (Piece Symbol))
    (before value after : List Symbol) : Prop :=
  ∃ front origin back lead trail,
    pieces = front ++ .replaced origin :: back ∧ token origin = lead ++ value ++ trail ∧
      before = render token front ++ lead ∧ after = trail ++ render token back

/-- The occurrence of `value` after `before` is made of kept symbols only. -/
def KeptAt (token : List Symbol → List Symbol) (pieces : List (Piece Symbol))
    (before value after : List Symbol) : Prop :=
  ∃ front back, pieces = front ++ value.map .kept ++ back ∧
    before = render token front ∧ after = render token back

/-- Some stretch of kept symbols spells the value. -/
def InClear (pieces : List (Piece Symbol)) (value : List Symbol) : Prop :=
  ∃ front back, pieces = front ++ value.map .kept ++ back

/-- A known value is never left in clear. -/
theorem Factors.not_inClear {Values : List Symbol → Prop} {text value : List Symbol}
    {pieces : List (Piece Symbol)} (factors : Factors Values text pieces)
    (known : Values value) (nonempty : value ≠ []) : ¬ InClear pieces value := by
  rintro ⟨front, back, rfl⟩
  cases value with
  | nil => exact nonempty rfl
  | cons head tail =>
      rw [List.append_assoc] at factors
      have unmatched := factors.suffix.unmatched_of_kept
      refine unmatched (head :: tail) known ⟨source back, ?_⟩
      rw [source_append, source_map_kept]

section Occurrences

variable {token : List Symbol → List Symbol} {pieces : List (Piece Symbol)}
  {value before after : List Symbol}

theorem InsideToken.cons (piece : Piece Symbol)
    (inside : InsideToken token pieces before value after) :
    InsideToken token (piece :: pieces) (piece.render token ++ before) value after := by
  obtain ⟨front, origin, back, lead, trail, rfl, spelled, rfl, rfl⟩ := inside
  exact ⟨piece :: front, origin, back, lead, trail, rfl, spelled, by simp, rfl⟩

theorem KeptAt.cons (piece : Piece Symbol) (kept : KeptAt token pieces before value after) :
    KeptAt token (piece :: pieces) (piece.render token ++ before) value after := by
  obtain ⟨front, back, rfl, rfl, rfl⟩ := kept
  exact ⟨piece :: front, back, rfl, rfl, rfl⟩

theorem KeptAt.inClear (kept : KeptAt token pieces before value after) :
    InClear pieces value := by
  obtain ⟨front, back, split, _, _⟩ := kept
  exact ⟨front, back, split⟩

/-- A stretch read at the start of the rendered text that holds no opening
symbol is made of kept symbols. -/
theorem kept_of_render_prefix {stretch : List Symbol}
    (opened : ∀ origin, .replaced origin ∈ pieces →
      token origin ≠ [] ∧ ∀ symbol ∈ (token origin).head?, symbol ∉ stretch)
    (spelled : render token pieces = stretch ++ after) :
    ∃ back, pieces = stretch.map .kept ++ back ∧ after = render token back := by
  induction stretch generalizing pieces with
  | nil => exact ⟨pieces, rfl, spelled.symm⟩
  | cons symbol rest ih =>
      cases pieces with
      | nil => cases spelled
      | cons piece later =>
          cases piece with
          | kept other =>
              obtain ⟨rfl, tail_spelled⟩ := List.cons.inj spelled
              have tail_opened : ∀ origin, .replaced origin ∈ later →
                  token origin ≠ [] ∧ ∀ symbol ∈ (token origin).head?, symbol ∉ rest := by
                intro origin member
                obtain ⟨nonempty, apart⟩ := opened origin (List.mem_cons_of_mem _ member)
                exact ⟨nonempty, fun symbol first inside =>
                  apart symbol first (List.mem_cons_of_mem _ inside)⟩
              obtain ⟨back, rfl, after_eq⟩ := ih tail_opened tail_spelled
              exact ⟨back, rfl, after_eq⟩
          | replaced origin =>
              obtain ⟨nonempty, apart⟩ := opened origin List.mem_cons_self
              cases head : token origin with
              | nil => exact absurd head nonempty
              | cons first others =>
                  have starts : first = symbol := by
                    have read := spelled
                    rw [render_cons, Piece.render, head] at read
                    exact (List.cons.inj read).1
                  exact absurd (starts ▸ List.mem_cons_self) (apart first (by simp [head]))

/-- An occurrence in the rendered text lies inside one inserted token or is made
of kept symbols: it cannot form across the ends of a token. -/
theorem occurrence_cases
    (fenced : ∀ origin, .replaced origin ∈ pieces → Fenced (token origin) value)
    (occurs : render token pieces = before ++ value ++ after) :
    InsideToken token pieces before value after ∨ KeptAt token pieces before value after := by
  induction pieces generalizing before with
  | nil =>
      have empty := occurs.symm
      simp only [render_nil, List.append_eq_nil_iff] at empty
      obtain ⟨⟨rfl, rfl⟩, rfl⟩ := empty
      exact Or.inr ⟨[], [], rfl, rfl, rfl⟩
  | cons piece rest ih =>
      have later (before' : List Symbol) (shifted : before = piece.render token ++ before')
          (spelled : render token rest = before' ++ value ++ after) :
          InsideToken token (piece :: rest) before value after ∨
            KeptAt token (piece :: rest) before value after := by
        rw [shifted]
        exact (ih (fun origin member => fenced origin (List.mem_cons_of_mem _ member)) spelled).imp
          (InsideToken.cons piece) (KeptAt.cons piece)
      rw [render_cons, List.append_assoc] at occurs
      rcases List.append_eq_append_iff.mp occurs with ⟨before', shifted, spelled⟩ | ⟨cut, ends, starts⟩
      · exact later before' shifted (by rw [spelled, List.append_assoc])
      · cases piece with
        | kept symbol =>
            cases before with
            | cons first before' =>
                obtain ⟨rfl, nothing⟩ := List.cons.inj ends
                obtain ⟨rfl, rfl⟩ := List.append_eq_nil_iff.mp nothing.symm
                exact later [] rfl (by simpa using starts.symm)
            | nil =>
                have opened : ∀ origin, .replaced origin ∈ .kept symbol :: rest →
                    token origin ≠ [] ∧ ∀ mark ∈ (token origin).head?, mark ∉ value :=
                  fun origin member => ⟨(fenced origin member).nonempty, (fenced origin member).opened⟩
                have read : render token (.kept symbol :: rest) = value ++ after := by
                  rw [render_cons, ends, List.nil_append, starts]
                obtain ⟨back, split, after_eq⟩ := kept_of_render_prefix opened read
                exact Or.inr ⟨[], back, split, rfl, after_eq⟩
        | replaced origin =>
            rcases List.append_eq_append_iff.mp starts with ⟨trail, inner, outer⟩ | ⟨tail, split, spelled⟩
            · refine Or.inl ⟨[], origin, rest, before, trail, rfl, ?_, rfl, outer⟩
              exact ends.trans (by rw [inner, List.append_assoc])
            · cases last : cut.getLast? with
              | none =>
                  have nothing : cut = [] := List.getLast?_eq_none_iff.mp last
                  subst nothing
                  exact later [] (by simpa using ends.symm) (by rw [split]; simpa using spelled)
              | some symbol =>
                  have closing : symbol ∈ (token origin).getLast? := by
                    have whole : token origin = before ++ cut := ends
                    simp [whole, List.getLast?_append, last]
                  have inside : symbol ∈ value := by
                    rw [split]
                    exact List.mem_append_left _ (List.mem_of_getLast? last)
                  exact absurd inside ((fenced origin List.mem_cons_self).closed symbol closing)

/-- Every occurrence of a known value in the rendered text lies inside one
inserted token. -/
theorem Factors.occurrence_inside {Values : List Symbol → Prop} {text : List Symbol}
    (factors : Factors Values text pieces) (known : Values value) (nonempty : value ≠ [])
    (fenced : ∀ origin, Values origin → Fenced (token origin) value)
    (occurs : render token pieces = before ++ value ++ after) :
    InsideToken token pieces before value after := by
  have fenced_pieces : ∀ origin, .replaced origin ∈ pieces → Fenced (token origin) value :=
    fun origin member => fenced origin (factors.known_of_replaced member)
  rcases occurrence_cases fenced_pieces occurs with inside | kept
  · exact inside
  · exact absurd kept.inClear (factors.not_inClear known nonempty)

end Occurrences

/-! ## Undoing a replacement -/

/-- Tokens that do not overlap: what is left of one after a cut starts no token
and has none at its start, unless nothing was cut and the tokens are equal. -/
def Separate (Tokens : List Symbol → Prop) : Prop :=
  ∀ first second, Tokens first → Tokens second → ∀ lead stub, first = lead ++ stub → stub ≠ [] →
    stub <+: second ∨ second <+: stub → lead = [] ∧ first = second

/-- A replaced piece, as a piece of the rendered text. -/
def Piece.inserted (token : List Symbol → List Symbol) : Piece Symbol → Piece Symbol
  | .kept symbol => .kept symbol
  | .replaced value => .replaced (token value)

section Undo

variable {token : List Symbol → List Symbol} {Values Tokens : List Symbol → Prop}
  {text : List Symbol} {pieces : List (Piece Symbol)}

/-- The end of a token that is read at the start of the rendered text is read in
the text itself: it cannot run into an inserted token. -/
theorem Separate.prefix_source (separate : Separate Tokens)
    (inserts : ∀ value, .replaced value ∈ pieces → Tokens (token value))
    {lead stretch : List Symbol} (isToken : Tokens (lead ++ stretch)) (begun : lead ≠ [])
    (read : stretch <+: render token pieces) : stretch <+: source pieces := by
  induction stretch generalizing lead pieces with
  | nil => exact List.nil_prefix
  | cons symbol rest ih =>
      cases pieces with
      | nil => exact absurd (List.prefix_nil.mp read) (List.cons_ne_nil _ _)
      | cons piece later =>
          cases piece with
          | kept other =>
              rw [render_cons, Piece.render, List.singleton_append, List.cons_prefix_cons] at read
              obtain ⟨rfl, tail_read⟩ := read
              have regrouped : lead ++ symbol :: rest = (lead ++ [symbol]) ++ rest := by simp
              rw [regrouped] at isToken
              have tail := ih (fun value member => inserts value (List.mem_cons_of_mem _ member))
                isToken (by simp) tail_read
              rw [source_cons, Piece.source, List.singleton_append, List.cons_prefix_cons]
              exact ⟨rfl, tail⟩
          | replaced value =>
              rw [render_cons, Piece.render] at read
              have meets := List.prefix_or_prefix_of_prefix read (List.prefix_append _ _)
              have apart := separate _ _ isToken (inserts value List.mem_cons_self) lead _ rfl
                (List.cons_ne_nil _ _) meets
              exact absurd apart.1 begun

/-- The inserted tokens are the cut of the rendered text: no token is read where
a symbol was kept, and none longer where a token was inserted. -/
theorem Factors.inserted (factors : Factors Values text pieces) (separate : Separate Tokens)
    (inserts : ∀ value, Values value → Tokens (token value) ∧ token value ≠ [])
    (filled : ¬ Tokens []) (clear : ∀ mark, Tokens mark → ¬ mark <:+: text) :
    Factors Tokens (render token pieces) (pieces.map (Piece.inserted token)) := by
  induction factors with
  | nil => exact Factors.nil
  | @keep symbol rest pieces unmatched tail ih =>
      have clear_rest : ∀ mark, Tokens mark → ¬ mark <:+: rest := by
        intro mark isToken inside
        exact clear mark isToken (inside.trans (List.suffix_cons symbol rest).isInfix)
      refine Factors.keep ?_ (ih clear_rest)
      intro mark isToken read
      cases mark with
      | nil => exact filled isToken
      | cons first others =>
          obtain ⟨rfl, tail_read⟩ := List.cons_prefix_cons.mp read
          have inserts_rest : ∀ value, .replaced value ∈ pieces → Tokens (token value) :=
            fun value member => (inserts value (tail.known_of_replaced member)).1
          have split : Tokens ([first] ++ others) := isToken
          have in_source := separate.prefix_source inserts_rest split (List.cons_ne_nil _ _) tail_read
          rw [tail.source_eq] at in_source
          exact clear _ isToken (List.cons_prefix_cons.mpr ⟨rfl, in_source⟩).isInfix
  | @replace value rest pieces known nonempty longest tail ih =>
      have clear_rest : ∀ mark, Tokens mark → ¬ mark <:+: rest := by
        intro mark isToken inside
        exact clear mark isToken (inside.trans (List.suffix_append value rest).isInfix)
      refine Factors.replace (inserts value known).1 (inserts value known).2 ?_ (ih clear_rest)
      intro mark isToken read
      have meets := List.prefix_or_prefix_of_prefix read (List.prefix_append _ _)
      have mark_filled : mark ≠ [] := fun empty => filled (empty ▸ isToken)
      have same := separate _ _ isToken (inserts value known).1 [] mark rfl mark_filled meets
      exact Nat.le_of_eq (congrArg List.length same.2)

/-- Rendering the inserted tokens back gives the text that was cut. -/
theorem render_inserted {real : List Symbol → List Symbol}
    (back : ∀ value, .replaced value ∈ pieces → real (token value) = value) :
    render real (pieces.map (Piece.inserted token)) = source pieces := by
  induction pieces with
  | nil => rfl
  | cons piece rest ih =>
      have later := ih fun value member => back value (List.mem_cons_of_mem _ member)
      cases piece with
      | kept symbol =>
          rw [List.map_cons, render_cons, later]
          rfl
      | replaced value =>
          have here := back value List.mem_cons_self
          rw [List.map_cons, render_cons, later, source_cons]
          exact congrArg (· ++ source rest) here

end Undo

end Foundation.Replacement
