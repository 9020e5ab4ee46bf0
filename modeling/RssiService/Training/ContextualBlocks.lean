import Mathlib.Data.List.Dedup
import RssiService.Training.AcceptedBlocks

/-!
# What a client reads is a content again

A rendered block has the texts of the block with the values in the place of the
variables and every other field unchanged, so only three things can be lost: the
length of a text, the pairing of the marks of a fallback text that nobody
checks, and the absence of variables when a variable stands within the name of
another.
-/

namespace RssiService.Training.Blocks

open Foundation.Outcome Foundation.Replacement Foundation.Template Python

/-! ## The rendered block -/

/-- A text is changed, any other value stays. -/
def surTexte (change : String → String) : Json → Json
  | .str contenu => .str (change contenu)
  | valeur => valeur

/-- The second block is the first one with its texts changed. -/
structure Rendu (change : String → String) (bloc rendu : Json) : Prop where
  isDict : ∃ fields, rendu = .obj fields
  presence : ∀ cle, hasKey rendu cle = hasKey bloc cle
  autres : ∀ cle, cle ∉ Champ.simples.map Champ.nom → cle ≠ "items" → rendu.get cle = bloc.get cle
  simples : ∀ champ ∈ Champ.simples, rendu.get champ.nom = surTexte change (bloc.get champ.nom)
  items : ∀ items, iterer (orEmpty (bloc.get "items")) = .ok items →
    iterer (orEmpty (rendu.get "items")) = .ok (items.map (surTexte change))
  liste : ∀ items, bloc.get "items" = .arr items →
    rendu.get "items" = .arr (items.map (surTexte change))

theorem texteDe_surTexte (change : String → String) (champ : Champ) (valeur : Json) :
    texteDe champ (surTexte change valeur) =
      (texteDe champ valeur).map fun trouve => (trouve.1, change trouve.2) := by
  cases valeur <;> rfl

theorem textesDesItems_map (change : String → String) (rang : Nat) (items : List Json) :
    textesDesItems rang (items.map (surTexte change)) =
      (textesDesItems rang items).map fun trouve => (trouve.1, change trouve.2) := by
  induction items generalizing rang with
  | nil => rfl
  | cons item suite ih =>
      rw [List.map_cons, textesDesItems, textesDesItems, ih, texteDe_surTexte, List.map_append]
      cases texteDe (.items rang) item <;> rfl

/-- The texts of a rendered block are the changed texts, in the same fields. -/
theorem Rendu.textesDuBloc {change : String → String} {bloc rendu : Json}
    (isRendu : Rendu change bloc rendu) {textes : List (Champ × String)}
    (read : textesDuBloc bloc = .ok textes) :
    Blocks.textesDuBloc rendu = .ok (textes.map fun trouve => (trouve.1, change trouve.2)) := by
  obtain ⟨_, items, iterated, rfl⟩ := textesDuBloc_eq_ok.mp read
  refine textesDuBloc_eq_ok.mpr ⟨isRendu.isDict, _, isRendu.items items iterated, ?_⟩
  rw [List.map_append, textesDesItems_map, List.map_filterMap]
  congr 1
  refine List.filterMap_congr fun champ simple => ?_
  rw [isRendu.simples champ simple, texteDe_surTexte]

/-- One field outside the items, rendered. -/
def rendreChamp (change : String → String) (champ : Champ) (bloc : Json) : Json :=
  match bloc.get champ.nom with
  | .str contenu => setKey bloc champ.nom (.str (change contenu))
  | _ => bloc

section Champs

variable {change : String → String} {champ : Champ} {bloc : Json}

theorem rendreChamp_get_self (isDict : ∃ fields, bloc = .obj fields) :
    (rendreChamp change champ bloc).get champ.nom = surTexte change (bloc.get champ.nom) := by
  rw [rendreChamp]
  cases found : bloc.get champ.nom with
  | str contenu => exact get_setKey_self isDict _ _
  | _ => exact found

theorem rendreChamp_get_of_ne {cle : String} (differs : cle ≠ champ.nom) :
    (rendreChamp change champ bloc).get cle = bloc.get cle := by
  rw [rendreChamp]
  split
  · exact get_setKey_of_ne differs _ _
  · rfl

theorem hasKey_rendreChamp (cle : String) :
    hasKey (rendreChamp change champ bloc) cle = hasKey bloc cle := by
  rw [rendreChamp]
  split
  case h_1 contenu found => exact hasKey_setKey (hasKey_of_get (by rw [found]; simp)) _ _
  case h_2 => rfl

theorem rendreChamp_isDict (isDict : ∃ fields, bloc = .obj fields) :
    ∃ fields, rendreChamp change champ bloc = .obj fields := by
  rw [rendreChamp]
  split
  · exact setKey_isDict isDict _ _
  · exact isDict

end Champs

section Boucle

variable {valeurs : List (String × Int)}

theorem remplacerChamp_simple {champ : Champ} (simple : champ ∈ Champ.simples) (bloc : Json)
    (contenu : String) :
    remplacerChamp valeurs bloc (champ, contenu) =
      .ok (setKey bloc champ.nom (.str (rendre valeurs contenu))) := by
  cases champ with
  | items rang => simp [Champ.simples] at simple
  | _ => rfl

/-- The loop over the fields outside the items renders them one after the other. -/
theorem foldlM_simples {bloc courant : Json} {champs : List Champ}
    (simple : ∀ champ ∈ champs, champ ∈ Champ.simples) (apart : (champs.map Champ.nom).Nodup)
    (same : ∀ champ ∈ champs, courant.get champ.nom = bloc.get champ.nom) :
    (champs.filterMap fun champ => texteDe champ (bloc.get champ.nom)).foldlM
        (remplacerChamp valeurs) courant =
      .ok (champs.foldl (fun rendu champ => rendreChamp (rendre valeurs) champ rendu) courant) := by
  induction champs generalizing courant with
  | nil => rfl
  | cons champ suite ih =>
      rw [List.map_cons, List.nodup_cons] at apart
      have here := same champ List.mem_cons_self
      have others : ∀ other ∈ suite,
          (rendreChamp (rendre valeurs) champ courant).get other.nom = bloc.get other.nom := by
        intro other member
        rw [rendreChamp_get_of_ne fun equal => apart.1 (equal ▸ List.mem_map_of_mem member)]
        exact same other (List.mem_cons_of_mem _ member)
      have later := ih (fun other member => simple other (List.mem_cons_of_mem _ member)) apart.2
        others
      rw [List.foldl_cons, ← later, List.filterMap_cons]
      cases found : bloc.get champ.nom with
      | str contenu =>
          have step : remplacerChamp valeurs courant (champ, contenu) =
              .ok (rendreChamp (rendre valeurs) champ courant) := by
            rw [remplacerChamp_simple (simple champ List.mem_cons_self), rendreChamp, here, found]
          simp only [texteDe, List.foldlM_cons, step]
          rfl
      | _ =>
          have step : rendreChamp (rendre valeurs) champ courant = courant := by
            rw [rendreChamp, here, found]
          rw [step]
          rfl

section Item

variable {courant : Json} {faits suite : List Json} {contenu : String}

/-- The list of the copy is written once more, with this entry rendered. -/
theorem remplacerChamp_item
    (iterated : iterer (orEmpty (courant.get "items")) = .ok (faits ++ .str contenu :: suite)) :
    remplacerChamp valeurs courant (.items (faits.length + 1), contenu) =
      .ok (setKey courant "items" (.arr (faits ++ .str (rendre valeurs contenu) :: suite))) := by
  refine bind_eq_ok.mpr ⟨_, iterated, ?_⟩
  rw [Nat.add_sub_cancel, List.set_append_right _ _ (Nat.le_refl _), Nat.sub_self]
  rfl

theorem hasKey_items {item : Json}
    (iterated : iterer (orEmpty (courant.get "items")) = .ok (faits ++ item :: suite)) :
    hasKey courant "items" = true := by
  refine hasKey_of_get fun absent => ?_
  rw [absent] at iterated
  have empty : faits ++ item :: suite = [] := (Except.ok.inj iterated).symm
  exact List.append_ne_nil_of_right_ne_nil faits (List.cons_ne_nil item suite) empty

end Item

/-- The loop over the items renders them one after the other, after those that
are done. -/
theorem foldlM_items {courant : Json} (isDict : ∃ fields, courant = .obj fields)
    {faits suite : List Json}
    (iterated : iterer (orEmpty (courant.get "items")) = .ok (faits ++ suite)) :
    ∃ rendu, (textesDesItems (faits.length + 1) suite).foldlM (remplacerChamp valeurs) courant =
        .ok rendu ∧
      (∃ fields, rendu = .obj fields) ∧
      (∀ cle, hasKey rendu cle = hasKey courant cle) ∧
      (∀ cle, cle ≠ "items" → rendu.get cle = courant.get cle) ∧
      iterer (orEmpty (rendu.get "items")) =
        .ok (faits ++ suite.map (surTexte (rendre valeurs))) ∧
      ((∃ items, courant.get "items" = .arr items) →
        rendu.get "items" = .arr (faits ++ suite.map (surTexte (rendre valeurs)))) := by
  induction suite generalizing courant faits with
  | nil =>
      refine ⟨courant, rfl, isDict, fun _ => rfl, fun _ _ => rfl, iterated, ?_⟩
      rintro ⟨items, listed⟩
      rw [listed, iterer_orEmpty_arr] at iterated
      rw [listed, Except.ok.inj iterated, List.map_nil]
  | cons item suite ih =>
      have after (traite : Json) : (faits ++ [traite]).length + 1 = faits.length + 1 + 1 := by
        rw [List.length_append, List.length_singleton]
      have shape (traite : Json) (autres : List Json) :
          faits ++ [traite] ++ autres = faits ++ traite :: autres := by
        rw [List.append_assoc, List.singleton_append]
      cases item with
      | str contenu =>
          let rendu := Json.str (rendre valeurs contenu)
          let suivant := setKey courant "items" (.arr (faits ++ rendu :: suite))
          have listed : suivant.get "items" = .arr (faits ++ rendu :: suite) :=
            get_setKey_self isDict _ _
          have read : iterer (orEmpty (suivant.get "items")) = .ok (faits ++ [rendu] ++ suite) := by
            rw [listed, iterer_orEmpty_arr, shape]
          obtain ⟨dernier, loop, dict, presence, autres, items, liste⟩ :=
            ih (setKey_isDict isDict _ _) read
          rw [after] at loop
          rw [shape] at items liste
          refine ⟨dernier, ?_, dict, ?_, ?_, items, fun _ => liste ⟨_, listed⟩⟩
          · rw [textesDesItems, texteDe, Option.toList_some, List.singleton_append,
              List.foldlM_cons, remplacerChamp_item iterated]
            exact loop
          · intro cle
            rw [presence, hasKey_setKey (hasKey_items iterated)]
          · intro cle differs
            rw [autres cle differs, get_setKey_of_ne differs]
      | _ =>
          rw [← shape] at iterated
          obtain ⟨dernier, loop, dict, presence, autres, items, liste⟩ := ih isDict iterated
          rw [after] at loop
          rw [shape] at items liste
          exact ⟨dernier, loop, dict, presence, autres, items, liste⟩

/-- The loop over all the texts of a block gives the rendered block. -/
theorem foldlM_textes (valeurs : List (String × Int)) {bloc : Json} {textes : List (Champ × String)}
    (read : textesDuBloc bloc = .ok textes) :
    ∃ rendu, textes.foldlM (remplacerChamp valeurs) bloc = .ok rendu ∧
      Rendu (rendre valeurs) bloc rendu := by
  obtain ⟨isDict, items, iterated, rfl⟩ := textesDuBloc_eq_ok.mp read
  let change := rendre valeurs
  let premier := rendreChamp change .alternative
    (rendreChamp change .source (rendreChamp change .texte bloc))
  have simples : (Champ.simples.filterMap fun champ => texteDe champ (bloc.get champ.nom)).foldlM
      (remplacerChamp valeurs) bloc = .ok premier :=
    foldlM_simples (fun _ member => member) (by decide) (fun _ _ => rfl)
  have dict : ∃ fields, premier = .obj fields :=
    rendreChamp_isDict (rendreChamp_isDict (rendreChamp_isDict isDict))
  have autres : ∀ cle, cle ∉ Champ.simples.map Champ.nom → premier.get cle = bloc.get cle := by
    intro cle outside
    simp only [Champ.simples, List.map_cons, List.map_nil, List.mem_cons, List.not_mem_nil,
      or_false, not_or] at outside
    rw [rendreChamp_get_of_ne outside.2.2, rendreChamp_get_of_ne outside.2.1,
      rendreChamp_get_of_ne outside.1]
  have fixed : premier.get "items" = bloc.get "items" := autres "items" (by decide)
  have iterated' : iterer (orEmpty (premier.get "items")) = .ok ([] ++ items) := by
    rw [fixed]
    exact iterated
  obtain ⟨rendu, loop, isDict', presence, autres', items', liste⟩ :=
    foldlM_items dict iterated'
  refine ⟨rendu, ?_, isDict', ?_, ?_, ?_, ?_, ?_⟩
  · rw [List.foldlM_append, simples]
    exact loop
  · intro cle
    rw [presence, hasKey_rendreChamp, hasKey_rendreChamp, hasKey_rendreChamp]
  · intro cle outside differs
    rw [autres' cle differs, autres cle outside]
  · intro champ simple
    simp only [Champ.simples, List.mem_cons, List.not_mem_nil, or_false] at simple
    rcases simple with rfl | rfl | rfl
    · rw [autres' _ (by decide), rendreChamp_get_of_ne (by decide),
        rendreChamp_get_of_ne (by decide), rendreChamp_get_self isDict]
    · rw [autres' _ (by decide), rendreChamp_get_of_ne (by decide),
        rendreChamp_get_self (rendreChamp_isDict isDict), rendreChamp_get_of_ne (by decide)]
    · rw [autres' _ (by decide),
        rendreChamp_get_self (rendreChamp_isDict (rendreChamp_isDict isDict)),
        rendreChamp_get_of_ne (by decide), rendreChamp_get_of_ne (by decide)]
  · intro other found
    rw [iterated] at found
    obtain rfl := Except.ok.inj found
    exact items'
  · intro other listed
    rw [listed, iterer_orEmpty_arr] at iterated
    obtain rfl := Except.ok.inj iterated
    exact liste ⟨_, fixed.trans listed⟩

end Boucle

/-! ## The values in the place of the variables -/

theorem isNameSymbol_of_isDigit {symbol : Char} (digit : symbol.isDigit = true) :
    isNameSymbol symbol = true ∧ isNameStart symbol = false := by
  have bounds : 48 ≤ symbol.toNat ∧ symbol.toNat ≤ 57 := by
    simpa [Char.isDigit, UInt32.le_iff_toNat_le] using digit
  have low : ('0' ≤ symbol) := bounds.1
  have high : (symbol ≤ '9') := bounds.2
  have notLower : ¬ ('a' ≤ symbol) := fun above => by
    have code : 97 ≤ symbol.toNat := above
    omega
  have notUpper : ¬ ('A' ≤ symbol) := fun above => by
    have code : 65 ≤ symbol.toNat := above
    omega
  have notUnderscore : symbol ≠ '_' := by
    rintro rfl
    exact absurd bounds.2 (by decide)
  simp [isNameSymbol, isNameStart, low, high, notLower, notUpper, notUnderscore]

theorem isSpace_of_isNameSymbol {symbol : Char} (continues : isNameSymbol symbol = true) :
    isSpace symbol = false := by
  have range : 48 ≤ symbol.toNat ∧ symbol.toNat ≤ 122 := by
    simp only [isNameSymbol, isNameStart, Bool.or_eq_true, Bool.and_eq_true, decide_eq_true_eq]
      at continues
    rcases continues with ((⟨low, high⟩ | ⟨low, high⟩) | rfl) | ⟨low, high⟩
    · have low' : 97 ≤ symbol.toNat := low
      have high' : symbol.toNat ≤ 122 := high
      omega
    · have low' : 65 ≤ symbol.toNat := low
      have high' : symbol.toNat ≤ 90 := high
      omega
    · decide
    · have low' : 48 ≤ symbol.toNat := low
      have high' : symbol.toNat ≤ 57 := high
      omega
  simp only [isSpace, Bool.or_eq_false_iff, Bool.and_eq_false_iff, decide_eq_false_iff_not]
  omega

/-- A number continues a name and does not start one. -/
theorem isNumeral_toString {valeur : Int} (positive : 0 < valeur) :
    motifVariable.IsNumeral (toString valeur).toList := by
  obtain ⟨count, rfl⟩ := Int.eq_ofNat_of_zero_le (Int.le_of_lt positive)
  have digits : (toString (count : Int)).toList = Nat.toDigits 10 count := by
    show (Nat.repr count).toList = _
    simp
  rw [digits]
  constructor
  · exact Nat.toDigits_ne_nil
  · intro symbol member
    exact isNameSymbol_of_isDigit (Nat.isDigit_of_mem_toDigits (by decide) (by decide) member)

theorem isPlain_of_connue {cle : String} (connue : cle ∈ clesConnues) :
    motifVariable.IsPlain cle.toList := by
  have all : ∀ cle ∈ clesConnues, cle.toList.all isNameStart = true := by
    decide +kernel
  exact List.all_eq_true.mp (all cle connue)

theorem isName_of_connue {cle : String} (connue : cle ∈ clesConnues) :
    motifVariable.IsName cle.toList := by
  have filled : ∀ cle ∈ clesConnues, cle.toList ≠ [] := by decide +kernel
  obtain ⟨first, rest, spelled⟩ := List.exists_cons_of_ne_nil (filled cle connue)
  have plain := isPlain_of_connue connue
  rw [spelled] at plain ⊢
  exact ⟨first, rest, rfl, plain first List.mem_cons_self, fun symbol member =>
    motifVariable.continues_of_starts (plain symbol (List.mem_cons_of_mem _ member))⟩

namespace Client

variable (client : Client)

/-- The client is told the value of the variable. -/
def Sert (cle : String) : Prop := ∃ valeur, client.valeur cle = .ok valeur

/-- The value of a variable the client is told. -/
def chiffre (cle : String) : Int := (client.valeur cle).toOption.getD 0

/-- The text of the value of a name. -/
def chiffres (name : List Char) : List Char :=
  (toString (client.chiffre (String.ofList name))).toList

/-- A text as the client reads it. -/
def affiche (texte : String) : String :=
  String.ofList
    (render (fun written => client.chiffres (Delimiters.unwrap written))
      (cut motifVariable texte.toList))

/-- The length of a text that counts every variable as long as its value. -/
def largeur (texte : String) : Nat :=
  ((cut motifVariable texte.toList).map fun
    | .kept _ => 1
    | .replaced written => (client.chiffres (Delimiters.unwrap written)).length).sum

variable {client}

/-- Only known variables have a value, and it is positive. -/
theorem valeur_eq_ok {cle : String} {valeur : Int} (served : client.valeur cle = .ok valeur) :
    cle ∈ clesConnues ∧ 0 < valeur := by
  rw [Client.valeur] at served
  cases found : registre.find? fun entree => entree.cle = cle with
  | none =>
      rw [found] at served
      cases served
  | some entree =>
      have connue : cle ∈ clesConnues := by
        have named : entree.cle = cle := by simpa using List.find?_some found
        exact named ▸ List.mem_map_of_mem (List.mem_of_find?_eq_some found)
      refine ⟨connue, ?_⟩
      simp only [found] at served
      split at served
      · cases served
      · split at served
        case h_1 => cases served
        case h_2 => cases served
        case h_3 brute _ =>
            by_cases empty : brute ≤ 0
            · rw [if_pos empty] at served
              cases served
            · rw [if_neg empty] at served
              split at served
              · cases served
              · rw [← Except.ok.inj served]
                exact Int.not_le.mp empty

theorem Sert.chiffre {cle : String} (served : client.Sert cle) :
    client.valeur cle = .ok (client.chiffre cle) := by
  obtain ⟨valeur, told⟩ := served
  rw [Client.chiffre, told]
  rfl

variable {texte : String}

/-- The numbers that stand in the place of the variables of a text. -/
theorem isNumeral_chiffres (served : ∀ cle ∈ variablesDuTexte texte, client.Sert cle) :
    ∀ written, .replaced written ∈ cut motifVariable texte.toList →
      motifVariable.IsNumeral (client.chiffres (Delimiters.unwrap written)) := by
  intro written member
  obtain ⟨name, isName, rfl⟩ := (factors_cut texte.toList).known_of_replaced member
  rw [Delimiters.unwrap_wrap]
  have cited : String.ofList name ∈ variablesDuTexte texte :=
    List.mem_map_of_mem (mem_names.mpr ⟨isName, member⟩)
  exact isNumeral_toString (valeur_eq_ok (served _ cited).chiffre).2

theorem affiche_toList : (client.affiche texte).toList =
    render (fun written => client.chiffres (Delimiters.unwrap written))
      (cut motifVariable texte.toList) := String.toList_ofList

theorem length_affiche : (client.affiche texte).length = client.largeur texte := by
  rw [← String.length_toList, affiche_toList, largeur, render, List.length_flatMap]
  congr 1
  refine List.map_congr_left fun piece _ => ?_
  cases piece <;> rfl

/-- The client reads a variable exactly where variables stood within a name. -/
theorem variablesDuTexte_affiche (served : ∀ cle ∈ variablesDuTexte texte, client.Sert cle) :
    variablesDuTexte (client.affiche texte) = [] ↔
      ¬ Nested motifVariable (cut motifVariable texte.toList) := by
  rw [variablesDuTexte, List.map_eq_nil_iff, names_eq_nil, affiche_toList,
    ← exists_variable_render (isNumeral_chiffres served)]
  simp only [not_exists, not_and]

/-- A text none of whose symbols is part of a name or a brace. -/
def Ponctuation (marque : String) : Prop :=
  marque.toList ≠ [] ∧ ∀ symbol ∈ marque.toList,
    isNameSymbol symbol = false ∧ symbol ≠ '\x7b' ∧ symbol ≠ '\x7d'

theorem ponctuation_of_all {marque : String} (filled : marque.toList ≠ [])
    (apart : marque.toList.all (fun symbol =>
      !isNameSymbol symbol && symbol ≠ '\x7b' && symbol ≠ '\x7d') = true) :
    Ponctuation marque := by
  refine ⟨filled, fun symbol member => ?_⟩
  have checked := List.all_eq_true.mp apart symbol member
  rw [Bool.and_eq_true, Bool.and_eq_true, Bool.not_eq_true', decide_eq_true_eq,
    decide_eq_true_eq] at checked
  exact ⟨checked.1.1, checked.1.2, checked.2⟩

/-- Numbers part the marks of a text as the variables did. -/
theorem compte_affiche (served : ∀ cle ∈ variablesDuTexte texte, client.Sert cle) {marque : String}
    (ponctuation : Ponctuation marque) :
    compte (client.affiche texte) marque = compte texte marque := by
  have values : ∀ written, .replaced written ∈ cut motifVariable texte.toList →
      client.chiffres (Delimiters.unwrap written) ≠ [] ∧
        ∀ symbol ∈ client.chiffres (Delimiters.unwrap written), symbol ∉ marque.toList := by
    intro written member
    obtain ⟨nonempty, symbols⟩ := isNumeral_chiffres served written member
    refine ⟨nonempty, fun symbol inValue inMark => ?_⟩
    have apart := (ponctuation.2 symbol inMark).1
    have continues : isNameSymbol symbol = true := (symbols symbol inValue).1
    rw [continues] at apart
    cases apart
  have names : ∀ written, .replaced written ∈ cut motifVariable texte.toList →
      written ≠ [] ∧ ∀ symbol ∈ written, symbol ∉ marque.toList := by
    intro written member
    obtain ⟨name, isName, rfl⟩ := (factors_cut texte.toList).known_of_replaced member
    refine ⟨List.cons_ne_nil _ _, fun symbol inVariable inMark => ?_⟩
    obtain ⟨apart, notOpening, notClosing⟩ := ponctuation.2 symbol inMark
    rcases List.mem_cons.mp inVariable with rfl | later
    · exact notOpening rfl
    · rcases List.mem_append.mp later with inName | last
      · have continues : isNameSymbol symbol = true := isName.continues symbol inName
        rw [continues] at apart
        cases apart
      · exact notClosing (List.mem_singleton.mp last)
  have same := occurrences_render ponctuation.1 values names []
  rw [List.nil_append, List.nil_append, render_id, source_cut] at same
  rw [compte, compte, affiche_toList]
  exact same

/-- A text that is not blank is not blank for the client. -/
theorem strip_affiche (served : ∀ cle ∈ variablesDuTexte texte, client.Sert cle)
    (filled : strip texte ≠ "") : strip (client.affiche texte) ≠ "" := by
  rw [strip_ne_empty] at filled ⊢
  obtain ⟨symbol, member, visible⟩ := filled
  rw [affiche_toList]
  by_cases cited : ∃ written, .replaced written ∈ cut motifVariable texte.toList
  · obtain ⟨written, piece⟩ := cited
    obtain ⟨nonempty, symbols⟩ := isNumeral_chiffres served written piece
    obtain ⟨first, rest, spelled⟩ := List.exists_cons_of_ne_nil nonempty
    refine ⟨first, List.mem_flatMap.mpr ⟨_, piece, ?_⟩, ?_⟩
    · rw [Piece.render, spelled]
      exact List.mem_cons_self
    · exact isSpace_of_isNameSymbol (symbols first (by rw [spelled]; exact List.mem_cons_self)).1
  · have spelled : render (fun written => client.chiffres (Delimiters.unwrap written))
        (cut motifVariable texte.toList) = texte.toList := by
      rw [render_congr fun written piece => absurd ⟨written, piece⟩ cited, render_id, source_cut]
    rw [spelled]
    exact ⟨symbol, member, visible⟩

/-- An image stays an image of the application. -/
theorem SourceValide.affiche (served : ∀ cle ∈ variablesDuTexte texte, client.Sert cle)
    (valide : SourceValide texte) : SourceValide (client.affiche texte) := by
  obtain ⟨filled, shipped, inside⟩ := valide
  refine ⟨strip_affiche served filled, ?_, ?_⟩
  · have wraps : ∀ written, .replaced written ∈ cut motifVariable texte.toList →
        motifVariable.IsVariable written :=
      fun written => (factors_cut texte.toList).known_of_replaced
    rw [affiche_toList]
    refine prefix_render wraps (by decide) ?_
    rw [source_cut]
    exact shipped
  · have dots : Ponctuation ".." := ponctuation_of_all (by decide) (by decide)
    have count := compte_affiche served dots
    rw [← Bool.not_eq_true, contains_eq_true] at inside ⊢
    have none : occurrences "..".toList texte.toList = 0 := (occurrences_eq_zero dots.1).mpr inside
    exact (occurrences_eq_zero dots.1).mp (count.trans none)

/-- The values, one after the other, give the text the client reads. -/
theorem rendre_eq_affiche {cles : List String} (nodup : cles.Nodup)
    (served : ∀ cle ∈ cles, client.Sert cle) (cited : ∀ cle ∈ variablesDuTexte texte, cle ∈ cles) :
    rendre (cles.map fun cle => (cle, client.chiffre cle)) texte = client.affiche texte := by
  have loop (debut : String) (suite : List String) :
      (rendre (suite.map fun cle => (cle, client.chiffre cle)) debut).toList =
        (suite.map String.toList).foldl (fun text key =>
          replaceAll (motifVariable.wrap key) (client.chiffres key) text) debut.toList := by
    induction suite generalizing debut with
    | nil => rfl
    | cons cle suite ih =>
        have wraps : ("\x7b" ++ cle ++ "\x7d").toList = motifVariable.wrap cle.toList := by
          simp [Delimiters.wrap, motifVariable]
        have value : client.chiffres cle.toList = (toString (client.chiffre cle)).toList := by
          rw [chiffres, String.ofList_toList]
        rw [rendre, List.map_cons, List.foldl_cons, ← rendre, ih, List.map_cons, List.foldl_cons,
          remplacer, String.toList_ofList, wraps, value]
  rw [← String.toList_inj, loop, affiche_toList]
  refine foldl_replaceAll_cut ?_ ?_ ?_ ?_ ?_
  · exact nodup.map (fun _ _ => String.toList_inj.mp)
  · exact List.forall_mem_map.mpr fun cle member =>
      isName_of_connue (valeur_eq_ok (served cle member).chiffre).1
  · exact List.forall_mem_map.mpr fun cle member =>
      isPlain_of_connue (valeur_eq_ok (served cle member).chiffre).1
  · refine List.forall_mem_map.mpr fun cle member => ?_
    rw [chiffres, String.ofList_toList]
    exact isNumeral_toString (valeur_eq_ok (served cle member).chiffre).2
  · intro name member
    have known := cited (String.ofList name) (List.mem_map_of_mem member)
    exact List.mem_map.mpr ⟨_, known, String.toList_ofList⟩

/-- Every variable of a list has its value, in the order of the list. -/
theorem mapM_valeurs {cles : List String} (served : ∀ cle ∈ cles, client.Sert cle) :
    (cles.mapM fun cle => (client.valeur cle).map fun valeur => (cle, valeur)) =
      .ok (cles.map fun cle => (cle, client.chiffre cle)) := by
  induction cles with
  | nil => rfl
  | cons cle suite ih =>
      rw [List.mapM_cons, (served cle List.mem_cons_self).chiffre,
        ih fun other member => served other (List.mem_cons_of_mem _ member)]
      rfl

/-- One variable without a value stops the list. -/
theorem mapM_valeurs_error {cles : List String} (unserved : ∃ cle ∈ cles, ¬ client.Sert cle) :
    ∃ raison, (cles.mapM fun cle => (client.valeur cle).map fun valeur => (cle, valeur)) =
      .error raison := by
  obtain ⟨cle, member, refused⟩ := unserved
  induction cles with
  | nil => cases member
  | cons first suite ih =>
      rw [List.mapM_cons]
      cases told : client.valeur first with
      | error raison => exact ⟨raison, rfl⟩
      | ok valeur =>
          rcases List.mem_cons.mp member with rfl | later
          · exact absurd ⟨valeur, told⟩ refused
          · obtain ⟨raison, stopped⟩ := ih later
            rw [stopped]
            exact ⟨raison, rfl⟩

end Client

/-! ## When a rendered block is accepted -/

/-- The largest length a text may have in a field of a type. -/
def maximumDuChamp (typeBloc : String) : Champ → Option Nat
  | .texte =>
      if typeBloc ∈ [paragraphe, encadre, citation] then some longueurMaxTexte
      else if typeBloc = titre then some longueurMaxCourte
      else none
  | .source => if typeBloc = citation then some longueurMaxCourte else none
  | .alternative => if typeBloc = image then some longueurMaxCourte else none
  | .items _ => if typeBloc = liste then some longueurMaxTexte else none

theorem maximum_texte {typeBloc : String} (isTexte : typeBloc ∈ [paragraphe, encadre, citation]) :
    maximumDuChamp typeBloc .texte = some longueurMaxTexte := if_pos isTexte

theorem maximum_titre : maximumDuChamp titre .texte = some longueurMaxCourte := by decide

/-- The texts that count in a block are short enough once changed. -/
def Contenus (change : String → String) (typeBloc : String) (textes : List (Champ × String)) :
    Prop :=
  ∀ trouve ∈ textes, ∀ maximum, maximumDuChamp typeBloc trouve.1 = some maximum →
    (change trouve.2).length ≤ maximum

theorem TexteValide.surTexte {change : String → String} {maximum borne : Nat} {valeur : Json}
    (valide : TexteValide maximum valeur)
    (filled : ∀ contenu, valeur = .str contenu → strip contenu ≠ "" → strip (change contenu) ≠ "")
    (short : ∀ contenu, valeur = .str contenu → (change contenu).length ≤ borne) :
    TexteValide borne (Blocks.surTexte change valeur) := by
  obtain ⟨contenu, rfl, visible, _⟩ := valide
  exact ⟨_, rfl, filled contenu rfl visible, short contenu rfl⟩

theorem TexteValide.length_le {change : String → String} {maximum : Nat} {contenu : String}
    (valide : TexteValide maximum (Blocks.surTexte change (.str contenu))) :
    (change contenu).length ≤ maximum := by
  obtain ⟨rendu, same, _, short⟩ := valide
  rw [Blocks.surTexte, Json.str.injEq] at same
  exact same ▸ short

section Types

variable {change : String → String} {typeBloc : String} {bloc rendu : Json}
  {textes : List (Champ × String)}

theorem Rendu.get_simple (isRendu : Rendu change bloc rendu)
    (read : Blocks.textesDuBloc bloc = .ok textes) {champ : Champ} (simple : champ ∈ Champ.simples)
    {contenu : String} (member : (champ, contenu) ∈ textes) :
    rendu.get champ.nom = .str (change contenu) := by
  rw [isRendu.simples champ simple, (mem_textes_simple read simple).mp member]
  rfl

/-- The texts of an accepted rendered block are short enough. -/
theorem Rendu.contenus (isRendu : Rendu change bloc rendu)
    (read : Blocks.textesDuBloc bloc = .ok textes) (valide : TypeValide typeBloc bloc)
    (valide' : TypeValide typeBloc rendu) : Contenus change typeBloc textes := by
  rintro ⟨champ, contenu⟩ member maximum bound
  cases champ with
  | texte =>
      have changed : rendu.get "texte" = .str (change contenu) :=
        isRendu.get_simple read (by decide) member
      rw [maximumDuChamp] at bound
      split at bound
      case isTrue isTexte =>
        obtain rfl := Option.some.inj bound
        exact (changed ▸ valide'.texte isTexte).length_le
      case isFalse =>
        obtain ⟨isTitre, same⟩ := Option.ite_none_right_eq_some.mp bound
        obtain rfl := Option.some.inj same
        exact (changed ▸ valide'.titre isTitre).length_le
  | source =>
      have changed : rendu.get "source" = .str (change contenu) :=
        isRendu.get_simple read (by decide) member
      have present : hasKey rendu "source" = true :=
        hasKey_of_get (by rw [changed]; simp)
      obtain ⟨isCitation, same⟩ := Option.ite_none_right_eq_some.mp bound
      obtain rfl := Option.some.inj same
      exact (changed ▸ valide'.citation isCitation present).length_le
  | alternative =>
      have changed : rendu.get "alternative" = .str (change contenu) :=
        isRendu.get_simple read (by decide) member
      obtain ⟨isImage, same⟩ := Option.ite_none_right_eq_some.mp bound
      obtain rfl := Option.some.inj same
      exact (changed ▸ valide'.alternative isImage).length_le
  | items rang =>
      obtain ⟨isListe, same⟩ := Option.ite_none_right_eq_some.mp bound
      obtain rfl := Option.some.inj same
      obtain ⟨items, listed, _⟩ := valide.items isListe
      obtain ⟨rendus, listed', _, _, all⟩ := valide'.items isListe
      rw [isRendu.liste items listed, Json.arr.injEq] at listed'
      have inItems := (exists_mem_textes_items read listed).mp ⟨rang, member⟩
      exact (all _ (listed' ▸ List.mem_map_of_mem inItems)).length_le

/-- A short enough text is accepted once more. -/
theorem Rendu.texteValide (isRendu : Rendu change bloc rendu)
    (read : Blocks.textesDuBloc bloc = .ok textes)
    (filled : ∀ trouve ∈ textes, strip trouve.2 ≠ "" → strip (change trouve.2) ≠ "")
    (short : Contenus change typeBloc textes) {champ : Champ} (simple : champ ∈ Champ.simples)
    {maximum borne : Nat} (before : TexteValide maximum (bloc.get champ.nom))
    (bound : maximumDuChamp typeBloc champ = some borne) :
    TexteValide borne (rendu.get champ.nom) := by
  rw [isRendu.simples champ simple]
  refine before.surTexte (fun contenu holds => ?_) fun contenu holds => ?_
  · exact filled (champ, contenu) ((mem_textes_simple read simple).mpr holds)
  · exact short (champ, contenu) ((mem_textes_simple read simple).mpr holds) borne bound

/-- The fields of the type are accepted once more when their texts stay short enough. -/
theorem Rendu.typeValide (isRendu : Rendu change bloc rendu)
    (read : Blocks.textesDuBloc bloc = .ok textes) (valide : TypeValide typeBloc bloc)
    (filled : ∀ trouve ∈ textes, strip trouve.2 ≠ "" → strip (change trouve.2) ≠ "")
    (chemins : ∀ trouve ∈ textes, SourceValide trouve.2 → SourceValide (change trouve.2))
    (short : Contenus change typeBloc textes) : TypeValide typeBloc rendu where
  texte := by
    intro isTexte
    have before : TexteValide longueurMaxTexte (bloc.get Champ.texte.nom) := valide.texte isTexte
    exact isRendu.texteValide read filled short (by decide) before (maximum_texte isTexte)
  titre := by
    intro isTitre
    have before : TexteValide longueurMaxCourte (bloc.get Champ.texte.nom) := valide.titre isTitre
    subst isTitre
    exact isRendu.texteValide read filled short (by decide) before maximum_titre
  niveau := by
    intro isTitre
    rw [isRendu.autres _ (by decide) (by decide)]
    exact valide.niveau isTitre
  ton := by
    intro isEncadre
    rw [isRendu.autres _ (by decide) (by decide)]
    exact valide.ton isEncadre
  citation := by
    intro isCitation present
    rw [isRendu.presence] at present
    have before : TexteValide longueurMaxCourte (bloc.get Champ.source.nom) :=
      valide.citation isCitation present
    exact isRendu.texteValide read filled short (by decide) before (if_pos isCitation)
  items := by
    intro isListe
    obtain ⟨items, listed, nonempty, few, all⟩ := valide.items isListe
    refine ⟨_, isRendu.liste items listed, fun empty => nonempty (List.map_eq_nil_iff.mp empty),
      by rwa [List.length_map], ?_⟩
    refine List.forall_mem_map.mpr fun item member => ?_
    refine (all item member).surTexte (fun contenu holds => ?_) fun contenu holds => ?_
    · obtain ⟨rang, found⟩ := (exists_mem_textes_items read listed).mpr (holds ▸ member)
      exact filled (.items rang, contenu) found
    · obtain ⟨rang, found⟩ := (exists_mem_textes_items read listed).mpr (holds ▸ member)
      exact short (.items rang, contenu) found longueurMaxTexte (if_pos isListe)
  ordonnee := by
    intro isListe present
    rw [isRendu.presence] at present
    rw [isRendu.autres _ (by decide) (by decide)]
    exact valide.ordonnee isListe present
  source := by
    intro isImage
    obtain ⟨chemin, holds, shipped⟩ := valide.source isImage
    have found : (.source, chemin) ∈ textes := (mem_textes_simple read (by decide)).mpr holds
    have changed : rendu.get "source" = .str (change chemin) :=
      isRendu.get_simple read (by decide) found
    exact ⟨change chemin, changed, chemins (.source, chemin) found shipped⟩
  alternative := by
    intro isImage
    have before : TexteValide longueurMaxCourte (bloc.get Champ.alternative.nom) :=
      valide.alternative isImage
    exact isRendu.texteValide read filled short (by decide) before (if_pos isImage)

end Types

/-- No text of the block cites a variable. -/
def SansVariable (bloc : Json) : Prop :=
  ∃ textes, textesDuBloc bloc = .ok textes ∧ cites textes = []

/-- The client is told every variable of the texts. -/
def Disponibles (client : Client) (textes : List (Champ × String)) : Prop :=
  ∀ cle ∈ cites textes, client.Sert cle

/-- Where the client is told every variable, none stands within a name, and every
text is short enough when its variables count as long as their values; elsewhere
the marks of the fallback text are closed. -/
def SeRend (client : Client) (typeBloc : String) (textes : List (Champ × String)) (bloc : Json) :
    Prop :=
  (Disponibles client textes → ∀ trouve ∈ textes,
    ¬ Nested motifVariable (cut motifVariable trouve.2.toList) ∧
      ∀ maximum, maximumDuChamp typeBloc trouve.1 = some maximum →
        client.largeur trouve.2 ≤ maximum) ∧
  (¬ Disponibles client textes → ∀ repli, bloc.get "repli" = .str repli →
    compte repli marqueGras % 2 = 0)

theorem cites_eq_nil {textes : List (Champ × String)} :
    cites textes = [] ↔ ∀ trouve ∈ textes, variablesDuTexte trouve.2 = [] :=
  List.flatMap_eq_nil_iff

theorem SetOrder.elements_eq_nil (ordre : SetOrder) {cles : List String} :
    ordre.elements cles = [] ↔ cles = [] := by
  rw [← List.dedup_eq_nil cles, ← List.length_eq_zero_iff, (ordre.perm cles).length_eq,
    List.length_eq_zero_iff]

theorem SetOrder.mem_elements (ordre : SetOrder) {cles : List String} {cle : String} :
    cle ∈ ordre.elements cles ↔ cle ∈ cles := by
  rw [(ordre.perm cles).mem_iff, List.mem_dedup]

theorem Client.affiche_of_plain {client : Client} {texte : String}
    (plain : variablesDuTexte texte = []) : client.affiche texte = texte := by
  rw [variablesDuTexte, List.map_eq_nil_iff] at plain
  rw [← String.toList_inj, Client.affiche_toList, render_congr, render_id, source_cut]
  intro written member
  obtain ⟨name, isName, rfl⟩ := (factors_cut texte.toList).known_of_replaced member
  have cited : name ∈ names motifVariable texte.toList := mem_names.mpr ⟨isName, member⟩
  rw [plain] at cited
  cases cited

theorem rendu_self {bloc : Json} (isDict : ∃ fields, bloc = .obj fields) :
    Rendu (fun contenu => contenu) bloc bloc := by
  have stays : ∀ valeur, surTexte (fun contenu => contenu) valeur = valeur := by
    intro valeur
    cases valeur <;> rfl
  have all : ∀ items, List.map (surTexte fun contenu => contenu) items = items := by
    intro items
    rw [List.map_congr_left fun item _ => stays item, List.map_id']
  refine ⟨isDict, fun _ => rfl, fun _ _ _ => rfl, fun champ _ => (stays _).symm, ?_, ?_⟩
  · intro items iterated
    rw [all]
    exact iterated
  · intro items listed
    rw [all]
    exact listed

section Bloc

variable {ordre : SetOrder} {client : Client} {typeBloc : String} {bloc : Json}
  {textes : List (Champ × String)}

/-- A block that cites nothing is read as it is. -/
theorem contextualiserBloc_plain (valide : BlocValide typeBloc textes bloc)
    (plain : cites textes = []) : contextualiserBloc ordre client bloc = .ok bloc := by
  refine bind_eq_ok.mpr ⟨textes, valide.lisible, ?_⟩
  have none : ordre.elements (cites textes) = [] := ordre.elements_eq_nil.mpr plain
  exact if_pos none

theorem seRend_plain (valide : BlocValide typeBloc textes bloc) (plain : cites textes = []) :
    SeRend client typeBloc textes bloc := by
  have served : Disponibles client textes := by
    intro cle cited
    rw [plain] at cited
    cases cited
  refine ⟨fun _ trouve member => ?_, fun unserved => absurd served unserved⟩
  have noVariable := cites_eq_nil.mp plain trouve member
  have same : client.affiche trouve.2 = trouve.2 := Client.affiche_of_plain noVariable
  constructor
  · have told : ∀ cle ∈ variablesDuTexte trouve.2, client.Sert cle := by
      intro cle cited
      rw [noVariable] at cited
      cases cited
    rw [← Client.variablesDuTexte_affiche told, same]
    exact noVariable
  · intro maximum bound
    rw [← Client.length_affiche, same]
    exact (rendu_self (textesDuBloc_eq_ok.mp valide.lisible).1).contenus valide.lisible valide.type
      valide.type trouve member maximum bound

/-- Without a value the block is its fallback text. -/
theorem contextualiserBloc_repli (ordre : SetOrder) (valide : BlocValide typeBloc textes bloc)
    (unserved : ¬ Disponibles client textes) :
    ∃ repli, bloc.get "repli" = .str repli ∧ TexteValide longueurMaxTexte (.str repli) ∧
      variablesDuTexte repli = [] ∧
      contextualiserBloc ordre client bloc =
        .ok (.obj [("type", .str paragraphe), ("texte", .str repli)]) := by
  have missing : ∃ cle ∈ cites textes, ¬ client.Sert cle := by
    by_contra none
    refine unserved fun cle cited => ?_
    by_contra refused
    exact none ⟨cle, cited, refused⟩
  obtain ⟨cle, cited, refused⟩ := missing
  have cites_ne : cites textes ≠ [] := List.ne_nil_of_mem cited
  obtain ⟨⟨repli, holds, filled, short⟩, plain⟩ := valide.repli cites_ne
  refine ⟨repli, holds, ⟨repli, rfl, filled, short⟩, plain repli holds, ?_⟩
  refine bind_eq_ok.mpr ⟨textes, valide.lisible, ?_⟩
  have nonempty : ordre.elements (cites textes) ≠ [] :=
    fun empty => cites_ne (ordre.elements_eq_nil.mp empty)
  obtain ⟨raison, stopped⟩ :=
    Client.mapM_valeurs_error ⟨cle, ordre.mem_elements.mpr cited, refused⟩
  have given : getOr bloc "repli" (.str "") = .str repli := by
    have present : hasKey bloc "repli" = true := hasKey_of_get (by rw [holds]; simp)
    rw [getOr, if_pos present, holds]
  refine (if_neg nonempty).trans ?_
  rw [cites] at stopped
  rw [stopped, given]
  rfl

/-- With every value the block is rendered. -/
theorem contextualiserBloc_rendu (ordre : SetOrder) (valide : BlocValide typeBloc textes bloc)
    (served : Disponibles client textes) (cited : cites textes ≠ []) :
    ∃ change rendu, contextualiserBloc ordre client bloc = .ok rendu ∧
      Rendu change bloc rendu ∧ ∀ trouve ∈ textes, change trouve.2 = client.affiche trouve.2 := by
  let cles := ordre.elements (cites textes)
  let valeurs := cles.map fun cle => (cle, client.chiffre cle)
  have nonempty : cles ≠ [] := fun empty => cited (ordre.elements_eq_nil.mp empty)
  have told : ∀ cle ∈ cles, client.Sert cle :=
    fun cle member => served cle (ordre.mem_elements.mp member)
  have nodup : cles.Nodup := (ordre.perm _).nodup_iff.mpr (List.nodup_dedup _)
  obtain ⟨rendu, loop, isRendu⟩ := foldlM_textes valeurs valide.lisible
  refine ⟨rendre valeurs, rendu, ?_, isRendu, ?_⟩
  · refine bind_eq_ok.mpr ⟨textes, valide.lisible, (if_neg nonempty).trans ?_⟩
    have all : ((ordre.elements (textes.flatMap fun champ => variablesDuTexte champ.2)).mapM
        fun cle => (client.valeur cle).map fun valeur => (cle, valeur)) = .ok valeurs :=
      Client.mapM_valeurs told
    rw [all]
    exact loop
  · intro trouve member
    refine Client.rendre_eq_affiche nodup told fun cle found => ?_
    exact ordre.mem_elements.mpr (List.mem_flatMap.mpr ⟨trouve, member, found⟩)

/-- A fallback text is accepted exactly when its marks are closed. -/
theorem accepte_repli {repli : String} (texte : TexteValide longueurMaxTexte (.str repli))
    (plain : variablesDuTexte repli = []) :
    (Accepte (.obj [("type", .str paragraphe), ("texte", .str repli)]) ∧
        SansVariable (.obj [("type", .str paragraphe), ("texte", .str repli)])) ↔
      compte repli marqueGras % 2 = 0 := by
  have read : textesDuBloc (.obj [("type", .str paragraphe), ("texte", .str repli)]) =
      .ok [(.texte, repli)] := rfl
  have none : cites [(Champ.texte, repli)] = [] := by simp [cites, plain]
  constructor
  · rintro ⟨⟨typeBloc, textes, valide⟩, _⟩
    have same := valide.lisible
    rw [read] at same
    obtain rfl := Except.ok.inj same
    exact (valide.riche _ List.mem_cons_self).1
  · intro closed
    refine ⟨⟨paragraphe, [(.texte, repli)], rfl, read, ?_, ?_, ?_⟩, _, read, none⟩
    · exact {
        texte := fun _ => texte
        titre := fun other => absurd other (by decide)
        niveau := fun other => absurd other (by decide)
        ton := fun other => absurd other (by decide)
        citation := fun other => absurd other (by decide)
        items := fun other => absurd other (by decide)
        ordonnee := fun other => absurd other (by decide)
        source := fun other => absurd other (by decide)
        alternative := fun other => absurd other (by decide) }
    · intro trouve member
      obtain rfl := List.mem_singleton.mp member
      refine ⟨closed, fun cle cited => ?_⟩
      rw [plain] at cited
      cases cited
    · exact fun cited => absurd none cited

/-- A rendered block is accepted and free of variables exactly when nothing is lost. -/
theorem Rendu.accepte_iff {change : String → String} {rendu : Json}
    (isRendu : Rendu change bloc rendu) (valide : BlocValide typeBloc textes bloc)
    (served : Disponibles client textes)
    (shown : ∀ trouve ∈ textes, change trouve.2 = client.affiche trouve.2) :
    Accepte rendu ∧ SansVariable rendu ↔ SeRend client typeBloc textes bloc := by
  have told : ∀ trouve ∈ textes, ∀ cle ∈ variablesDuTexte trouve.2, client.Sert cle :=
    fun trouve member cle found => served cle (List.mem_flatMap.mpr ⟨trouve, member, found⟩)
  have read := isRendu.textesDuBloc valide.lisible
  have connu : typeConnu rendu = some typeBloc := by
    rw [typeConnu, isRendu.autres "type" (by decide) (by decide)]
    exact valide.connu
  constructor
  · rintro ⟨⟨autreType, autres, valide'⟩, lus, read', none⟩
    rw [read] at read'
    obtain rfl := Except.ok.inj read'
    obtain rfl := Option.some.inj (connu.symm.trans valide'.connu)
    have short := isRendu.contenus valide.lisible valide.type valide'.type
    refine ⟨fun _ trouve member => ⟨?_, fun maximum bound => ?_⟩,
      fun unserved => absurd served unserved⟩
    · have free := cites_eq_nil.mp none _ (List.mem_map_of_mem member)
      rw [← Client.variablesDuTexte_affiche (told trouve member), ← shown trouve member]
      exact free
    · rw [← Client.length_affiche, ← shown trouve member]
      exact short trouve member maximum bound
  · rintro ⟨fits, _⟩
    have free : ∀ trouve ∈ textes, variablesDuTexte (change trouve.2) = [] := by
      intro trouve member
      rw [shown trouve member, Client.variablesDuTexte_affiche (told trouve member)]
      exact (fits served trouve member).1
    have none : cites (textes.map fun trouve => (trouve.1, change trouve.2)) = [] := by
      rw [cites_eq_nil, List.forall_mem_map]
      exact free
    refine ⟨⟨typeBloc, _, connu, read, ?_, ?_, fun cited => absurd none cited⟩, _, read, none⟩
    · refine isRendu.typeValide valide.lisible valide.type ?_ ?_ ?_
      · intro trouve member filled
        rw [shown trouve member]
        exact Client.strip_affiche (told trouve member) filled
      · intro trouve member shipped
        rw [shown trouve member]
        exact Client.SourceValide.affiche (told trouve member) shipped
      · intro trouve member maximum bound
        rw [shown trouve member, Client.length_affiche]
        exact (fits served trouve member).2 maximum bound
    · refine List.forall_mem_map.mpr fun trouve member => ⟨?_, fun cle cited => ?_⟩
      · have marks : Client.Ponctuation marqueGras :=
          Client.ponctuation_of_all (by decide) (by decide)
        have closed := (valide.riche trouve member).1
        rw [shown trouve member, Client.compte_affiche (told trouve member) marks]
        exact closed
      · rw [free trouve member] at cited
        cases cited

/-- What a client reads in the place of an accepted block is accepted and free of
variables exactly when nothing is lost. -/
theorem contextualiserBloc_accepte (ordre : SetOrder) (client : Client)
    (valide : BlocValide typeBloc textes bloc) :
    ∃ rendu, contextualiserBloc ordre client bloc = .ok rendu ∧
      (Accepte rendu ∧ SansVariable rendu ↔ SeRend client typeBloc textes bloc) := by
  by_cases plain : cites textes = []
  · refine ⟨bloc, contextualiserBloc_plain valide plain, iff_of_true ?_ (seRend_plain valide plain)⟩
    exact ⟨⟨typeBloc, textes, valide⟩, textes, valide.lisible, plain⟩
  by_cases served : Disponibles client textes
  · obtain ⟨change, rendu, read, isRendu, shown⟩ :=
      contextualiserBloc_rendu ordre valide served plain
    exact ⟨rendu, read, isRendu.accepte_iff valide served shown⟩
  · obtain ⟨repli, holds, texte, none, read⟩ :=
      contextualiserBloc_repli ordre valide served
    refine ⟨_, read, (accepte_repli texte none).trans ?_⟩
    constructor
    · intro closed
      refine ⟨fun told => absurd told served, fun _ other found => ?_⟩
      rw [holds, Json.str.injEq] at found
      exact found ▸ closed
    · intro fits
      exact fits.2 served repli holds

end Bloc

/-! ## What the validation promises the reader -/

/-- No block of the content cites a variable. -/
def SansVariables (blocs : Json) : Prop :=
  ∀ elements, blocs = .arr elements → ∀ bloc ∈ elements, SansVariable bloc

/-- Nothing is lost for the client in any block of the content. -/
def Fidele (client : Client) (blocs : Json) : Prop :=
  ∀ elements, blocs = .arr elements → ∀ bloc ∈ elements, ∀ typeBloc textes,
    typeConnu bloc = some typeBloc → textesDuBloc bloc = .ok textes →
      SeRend client typeBloc textes bloc

/-- The content a client reads is accepted once more and cites no variable. -/
def Relu (unicode : Unicode) (ordre : SetOrder) (client : Client) (blocs : Json) : Prop :=
  ∃ rendus, contextualiser ordre client blocs = .ok rendus ∧
    valider unicode rendus = .ok rendus ∧ SansVariables rendus

theorem contextualiserBlocs_accepte (ordre : SetOrder) (client : Client) {elements : List Json}
    (accepted : ∀ bloc ∈ elements, Accepte bloc) :
    ∃ rendus, contextualiserBlocs ordre client elements = .ok rendus ∧
      (rendus = [] ↔ elements = []) ∧
      ((∀ rendu ∈ rendus, Accepte rendu ∧ SansVariable rendu) ↔
        ∀ bloc ∈ elements, ∀ typeBloc textes, typeConnu bloc = some typeBloc →
          textesDuBloc bloc = .ok textes → SeRend client typeBloc textes bloc) := by
  induction elements with
  | nil => exact ⟨[], rfl, Iff.rfl, by simp⟩
  | cons bloc suite ih =>
      obtain ⟨autres, later, _, fits⟩ :=
        ih fun other member => accepted other (List.mem_cons_of_mem _ member)
      obtain ⟨typeBloc, textes, valide⟩ := accepted bloc List.mem_cons_self
      obtain ⟨rendu, first, fitsHere⟩ := contextualiserBloc_accepte ordre client valide
      refine ⟨rendu :: autres, ?_, by simp, ?_⟩
      · exact bind_eq_ok.mpr ⟨rendu, first, bind_eq_ok.mpr ⟨autres, later, rfl⟩⟩
      · rw [List.forall_mem_cons, List.forall_mem_cons, fits, fitsHere]
        refine and_congr_left fun _ => ⟨fun here autreType autresTextes connu lisible => ?_, ?_⟩
        · obtain rfl := Option.some.inj (valide.connu.symm.trans connu)
          obtain rfl := Except.ok.inj (valide.lisible.symm.trans lisible)
          exact here
        · intro here
          exact here typeBloc textes valide.connu valide.lisible

/-- An accepted content is read by a client as an accepted content without
variables exactly when nothing is lost. -/
theorem relu_iff {unicode : Unicode} (ordre : SetOrder) (client : Client) {blocs : Json}
    (accepted : valider unicode blocs = .ok blocs) :
    Relu unicode ordre client blocs ↔ Fidele client blocs := by
  obtain ⟨_, elements, rfl, nonempty, all⟩ := valider_eq_ok.mp accepted
  obtain ⟨rendus, read, empty, fits⟩ := contextualiserBlocs_accepte ordre client all
  have rendered : contextualiser ordre client (.arr elements) = .ok (.arr rendus) :=
    bind_eq_ok.mpr ⟨elements, iterer_orEmpty_arr elements, bind_eq_ok.mpr ⟨rendus, read, rfl⟩⟩
  have relu : Relu unicode ordre client (.arr elements) ↔
      ∀ rendu ∈ rendus, Accepte rendu ∧ SansVariable rendu := by
    constructor
    · rintro ⟨lus, found, accepted', free⟩ rendu member
      rw [rendered] at found
      obtain rfl := Except.ok.inj found
      obtain ⟨_, autres, same, _, all'⟩ := valider_eq_ok.mp accepted'
      cases same
      exact ⟨all' rendu member, free rendus rfl rendu member⟩
    · intro each
      refine ⟨_, rendered, valider_eq_ok.mpr ⟨rfl, rendus, rfl,
        fun none => nonempty (empty.mp none), fun rendu member => (each rendu member).1⟩, ?_⟩
      rintro autres same rendu member
      cases same
      exact (each rendu member).2
  rw [relu, fits]
  constructor
  · rintro each autres same
    cases same
    exact each
  · intro fidele
    exact fidele elements rfl

/-- The validation ends with its content or a refusal exactly on the contents whose
blocks it can go through, and what a client reads of an accepted content is accepted
and free of variables exactly when nothing is lost. -/
theorem valider_contextualiser (unicode : Unicode) :
    (∀ blocs, (valider unicode blocs = .ok blocs ∨
        ∃ problemes, valider unicode blocs = .error (.blocInvalide problemes)) ↔
      Lisible blocs) ∧
    ∀ ordre client blocs, valider unicode blocs = .ok blocs →
      (Relu unicode ordre client blocs ↔ Fidele client blocs) :=
  ⟨fun blocs => valider_termine blocs, fun ordre client _ accepted =>
    relu_iff ordre client accepted⟩

/-! ## Contents where something is lost -/

def ascii : Unicode where
  lower := id
  nfkc := id
  printable := fun _ => true

def asWritten : SetOrder where
  elements := List.dedup
  perm := fun _ => .refl _

/-- A client whose figures are all the same. -/
def sameFigures (figure : Option Int) : Client where
  hasFeature := fun _ => true
  resoudre := fun _ => .ok figure

def scoreParagraph (contenu repli : String) : Json :=
  .arr [.obj [("type", .str paragraphe), ("texte", .str contenu), ("repli", .str repli)]]

theorem valider_contextualiser_score :
    Relu ascii asWritten (sameFigures (some 68))
        (scoreParagraph "Score : \x7bscore_maturite\x7d." "Pas de score.") ↔
      Fidele (sameFigures (some 68))
        (scoreParagraph "Score : \x7bscore_maturite\x7d." "Pas de score.") :=
  (valider_contextualiser ascii).2 asWritten (sameFigures (some 68)) _ rfl

/-- A paragraph with a number in the place of `items` is neither returned nor
refused, and a fallback text with an open mark is accepted and then refused. -/
theorem valider_contextualiser_lost :
    ¬ (∀ unicode blocs, valider unicode blocs = .ok blocs ∨
        ∃ problemes, valider unicode blocs = .error (.blocInvalide problemes)) ∧
    ¬ (∀ unicode ordre client blocs, valider unicode blocs = .ok blocs →
        Relu unicode ordre client blocs) := by
  constructor
  · intro always
    have stopped : valider ascii (.arr [.obj [("type", .str paragraphe), ("texte", .str "Bonjour"),
        ("items", .int 5)]]) = .error (.typeError "'int' object is not iterable") := rfl
    rcases always ascii _ with accepted | ⟨problemes, refused⟩
    · rw [stopped] at accepted
      cases accepted
    · rw [stopped] at refused
      cases refused
  · intro always
    obtain ⟨rendus, read, accepted, _⟩ := always ascii asWritten (sameFigures none)
      (scoreParagraph "Score : \x7bscore_maturite\x7d." "**Pas de score.") rfl
    have fallback : rendus =
        .arr [.obj [("type", .str paragraphe), ("texte", .str "**Pas de score.")]] :=
      (Except.ok.inj read).symm
    rw [fallback] at accepted
    cases accepted

end RssiService.Training.Blocks
