import Mathlib.Data.List.TakeWhile
import RssiService.Foundation.Outcome
import RssiService.Training.Blocks

/-!
# Accepted contents

The validator accepts a block for reasons that do not depend on its position;
`BlocValide` lists them.  It ends with the content or a refusal unless it meets
an `items` field that it cannot go through, in a block of any known type.
-/

namespace RssiService.Training.Blocks

open Foundation.Outcome Foundation.Replacement Foundation.Template Python

/-! ## Fields of a dictionary -/

theorem lookup_setField (key cle : String) (value : Json) (fields : List (String × Json)) :
    (setField key value fields).lookup cle =
      if cle = key then some value else fields.lookup cle := by
  induction fields with
  | nil =>
      by_cases same : cle = key
      · simp [setField, same]
      · simp [setField, List.lookup_cons, same, beq_false_of_ne same]
  | cons field rest ih =>
      by_cases here : field.1 = key
      · rw [setField, if_pos here, List.lookup_cons, List.lookup_cons, here]
        by_cases same : cle = key
        · simp [same]
        · simp [same, beq_false_of_ne same]
      · rw [setField, if_neg here, List.lookup_cons, List.lookup_cons, ih]
        by_cases same : cle = key
        · subst same
          simp [beq_false_of_ne (Ne.symm here)]
        · simp [same]

@[simp]
theorem get_setKey_self {value : Json} (isDict : ∃ fields, value = .obj fields) (key : String)
    (new : Json) : (setKey value key new).get key = new := by
  obtain ⟨fields, rfl⟩ := isDict
  simp [setKey, Json.get, lookup_setField]

@[simp]
theorem get_setKey_of_ne {key cle : String} (differs : cle ≠ key) (value new : Json) :
    (setKey value key new).get cle = value.get cle := by
  cases value with
  | obj fields => simp [setKey, Json.get, lookup_setField, differs]
  | _ => rfl

theorem hasKey_of_get {value : Json} {key : String} (present : value.get key ≠ .null) :
    hasKey value key = true := by
  cases value with
  | obj fields =>
      cases found : fields.lookup key with
      | none => simp [Json.get, found] at present
      | some other => simp [hasKey, found]
  | _ => exact absurd rfl present

theorem hasKey_setKey {value : Json} {key : String} (present : hasKey value key = true)
    (new : Json) (cle : String) : hasKey (setKey value key new) cle = hasKey value cle := by
  cases value with
  | obj fields =>
      by_cases same : cle = key
      · subst same
        simp only [hasKey] at present
        simp [setKey, hasKey, lookup_setField, present]
      · simp [setKey, hasKey, lookup_setField, same]
  | _ => rfl

theorem setKey_isDict {value : Json} (isDict : ∃ fields, value = .obj fields) (key : String)
    (new : Json) : ∃ fields, setKey value key new = .obj fields := by
  obtain ⟨fields, rfl⟩ := isDict
  exact ⟨_, rfl⟩

/-! ## Acceptance -/

theorem strip_ne_empty {contenu : String} :
    strip contenu ≠ "" ↔ ∃ symbol ∈ contenu.toList, isSpace symbol = false := by
  have blank : strip contenu = "" ↔ ∀ symbol ∈ contenu.toList, isSpace symbol = true := by
    rw [strip, ← String.toList_inj, String.toList_ofList, String.toList_empty, rstripChars,
      List.reverse_eq_nil_iff, List.dropWhile_eq_nil_iff]
    simp only [List.mem_reverse, lstripChars]
    constructor
    · intro all
      rw [← List.dropWhile_eq_nil_iff]
      by_contra nonempty
      have visible := List.dropWhile_get_zero_not isSpace contenu.toList
        (List.length_pos_iff.mpr nonempty)
      exact visible (all _ (List.get_mem _ _))
    · intro all symbol member
      exact all symbol ((List.dropWhile_sublist _).mem member)
  rw [Ne, blank]
  simp only [not_forall, Bool.not_eq_true, exists_prop]

theorem contains_eq_true {contenu part : String} :
    contains contenu part = true ↔ part.toList <:+: contenu.toList := by
  rw [contains, List.any_eq_true, List.infix_iff_prefix_suffix]
  simp only [List.mem_tails, List.isPrefixOf_iff_prefix, and_comm]

/-- A text that is not blank and not too long. -/
def TexteValide (maximum : Nat) (valeur : Json) : Prop :=
  ∃ contenu, valeur = .str contenu ∧ strip contenu ≠ "" ∧ contenu.length ≤ maximum

theorem texte_eq_nil {valeur : Json} {champ ou : String} {maximum : Nat} :
    texte valeur champ ou maximum = [] ↔ TexteValide maximum valeur := by
  constructor
  · intro accepted
    cases valeur with
    | str contenu =>
        by_cases blank : strip contenu = ""
        · simp [texte, blank] at accepted
        · by_cases long : maximum < contenu.length
          · simp [texte, blank, long] at accepted
          · exact ⟨contenu, rfl, blank, Nat.not_lt.mp long⟩
    | _ => cases accepted
  · rintro ⟨contenu, rfl, filled, short⟩
    simp [texte, filled, Nat.not_lt.mpr short]

/-- The path of an image that comes with the application. -/
def SourceValide (source : String) : Prop :=
  strip source ≠ "" ∧ prefixeImage.toList <+: source.toList ∧ contains source ".." = false

theorem problemesDeLaSource_eq_nil {source : Json} {ou : String} :
    problemesDeLaSource source ou = [] ↔ ∃ chemin, source = .str chemin ∧ SourceValide chemin := by
  constructor
  · intro accepted
    cases source with
    | str chemin =>
        by_cases blank : strip chemin = ""
        · simp [problemesDeLaSource, blank] at accepted
        · by_cases refused : prefixeImage.toList.isPrefixOf chemin.toList = false ∨
              contains chemin ".." = true
          · simp only [problemesDeLaSource, if_neg blank, if_pos refused] at accepted
            cases accepted
          · rw [not_or, Bool.not_eq_false, Bool.not_eq_true] at refused
            exact ⟨chemin, rfl, blank, List.isPrefixOf_iff_prefix.mp refused.1, refused.2⟩
    | _ => cases accepted
  · rintro ⟨chemin, rfl, filled, shipped, inside⟩
    simp [problemesDeLaSource, filled, List.isPrefixOf_iff_prefix.mpr shipped, inside]

theorem problemesDesItems_eq_nil {ou : String} {rang : Nat} {items : List Json} :
    problemesDesItems ou rang items = [] ↔ ∀ item ∈ items, TexteValide longueurMaxTexte item := by
  induction items generalizing rang with
  | nil => simp [problemesDesItems]
  | cons item suite ih => simp [problemesDesItems, texte_eq_nil, ih]

/-- A list with some entries, not too many, that are all texts. -/
def ItemsValides (valeur : Json) : Prop :=
  ∃ items, valeur = .arr items ∧ items ≠ [] ∧ items.length ≤ maxItemsListe ∧
    ∀ item ∈ items, TexteValide longueurMaxTexte item

theorem problemesDeLaListe_eq_nil {items : Json} {ou : String} :
    problemesDeLaListe items ou = [] ↔ ItemsValides items := by
  constructor
  · intro accepted
    cases items with
    | arr items =>
        cases items with
        | nil => cases accepted
        | cons item suite =>
            by_cases long : maxItemsListe < (item :: suite).length
            · simp only [problemesDeLaListe, if_pos long] at accepted
              cases accepted
            · simp only [problemesDeLaListe, if_neg long] at accepted
              exact ⟨_, rfl, List.cons_ne_nil _ _, Nat.not_lt.mp long,
                problemesDesItems_eq_nil.mp accepted⟩
    | _ => cases accepted
  · rintro ⟨items, rfl, nonempty, short, valid⟩
    obtain ⟨item, suite, rfl⟩ := List.exists_cons_of_ne_nil nonempty
    rw [problemesDeLaListe, if_neg (Nat.not_lt.mpr short)]
    exact problemesDesItems_eq_nil.mpr valid

/-- What the validator asks of the fields that belong to the type of a block. -/
structure TypeValide (typeBloc : String) (bloc : Json) : Prop where
  texte : typeBloc ∈ [paragraphe, encadre, citation] →
    TexteValide longueurMaxTexte (bloc.get "texte")
  titre : typeBloc = titre → TexteValide longueurMaxCourte (bloc.get "texte")
  niveau : typeBloc = Blocks.titre → estNiveauTitre (bloc.get "niveau") = true
  ton : typeBloc = encadre → estDansLesTons (bloc.get "ton") = true
  citation : typeBloc = citation → hasKey bloc "source" = true →
    TexteValide longueurMaxCourte (bloc.get "source")
  items : typeBloc = liste → ItemsValides (bloc.get "items")
  ordonnee : typeBloc = liste → hasKey bloc "ordonnee" = true →
    isBool (bloc.get "ordonnee") = true
  source : typeBloc = image → ∃ chemin, bloc.get "source" = .str chemin ∧ SourceValide chemin
  alternative : typeBloc = image → TexteValide longueurMaxCourte (bloc.get "alternative")

theorem ite_nil_right {condition : Prop} [Decidable condition] {problemes : List String} :
    (if condition then problemes else []) = [] ↔ (condition → problemes = []) := by
  by_cases holds : condition <;> simp [holds]

theorem ite_nil_left {condition : Prop} [Decidable condition] {probleme : String} :
    (if condition then [] else [probleme]) = [] ↔ condition := by
  by_cases holds : condition <;> simp [holds]

theorem problemesDuType_eq_nil {typeBloc : String} {bloc : Json} {ou : String} :
    problemesDuType typeBloc bloc ou = [] ↔ TypeValide typeBloc bloc := by
  simp only [problemesDuType, List.append_eq_nil_iff, ite_nil_right, ite_nil_left, texte_eq_nil,
    problemesDeLaListe_eq_nil, problemesDeLaSource_eq_nil]
  constructor
  · rintro ⟨⟨⟨⟨⟨texte, titre⟩, ton⟩, citation⟩, liste⟩, image⟩
    refine ⟨texte, fun isTitre => (titre isTitre).1, fun isTitre => (titre isTitre).2, ?_,
      fun isCitation present => citation ⟨isCitation, present⟩, fun isListe => (liste isListe).1,
      ?_, fun isImage => (image isImage).1, fun isImage => (image isImage).2⟩
    · intro isEncadre
      by_contra unknown
      exact absurd (ton ⟨isEncadre, Bool.eq_false_of_not_eq_true unknown⟩) (List.cons_ne_nil _ _)
    · intro isListe present
      by_contra other
      exact absurd ((liste isListe).2 ⟨present, Bool.eq_false_of_not_eq_true other⟩)
        (List.cons_ne_nil _ _)
  · intro valide
    refine ⟨⟨⟨⟨⟨valide.texte, fun isTitre => ⟨valide.titre isTitre, valide.niveau isTitre⟩⟩, ?_⟩,
      fun present => valide.citation present.1 present.2⟩,
      fun isListe => ⟨valide.items isListe, ?_⟩⟩,
      fun isImage => ⟨valide.source isImage, valide.alternative isImage⟩⟩
    · rintro ⟨isEncadre, unknown⟩
      rw [valide.ton isEncadre] at unknown
      cases unknown
    · rintro ⟨present, other⟩
      rw [valide.ordonnee isListe present] at other
      cases other

/-- Closed marks, and variables of the register only. -/
def TexteRicheValide (contenu : String) : Prop :=
  compte contenu marqueGras % 2 = 0 ∧ ∀ cle ∈ variablesDuTexte contenu, cle ∈ clesConnues

theorem validerTexteRiche_eq_nil {contenu champ ou : String} :
    validerTexteRiche contenu champ ou clesConnues = [] ↔ TexteRicheValide contenu := by
  rw [validerTexteRiche, List.append_eq_nil_iff, List.flatMap_eq_nil_iff]
  refine and_congr ?_ (forall₂_congr fun cle _ => ite_nil_left)
  rw [ite_nil_right]
  constructor
  · intro closed
    by_contra opened
    exact absurd (closed opened) (List.cons_ne_nil _ _)
  · intro closed opened
    exact absurd closed opened

/-- The variables that the texts of a block cite. -/
def cites (textes : List (Champ × String)) : List String :=
  textes.flatMap fun champ => variablesDuTexte champ.2

/-- A fallback text without variables, where one is needed. -/
def RepliValide (bloc : Json) (textes : List (Champ × String)) : Prop :=
  cites textes ≠ [] → TexteValide longueurMaxTexte (bloc.get "repli") ∧
    ∀ repli, bloc.get "repli" = .str repli → variablesDuTexte repli = []

theorem problemesDuRepli_eq_nil {bloc : Json} {textes : List (Champ × String)} {ou : String} :
    problemesDuRepli bloc textes ou = [] ↔ RepliValide bloc textes := by
  by_cases plain : cites textes = []
  · have plain' : (textes.flatMap fun champ => variablesDuTexte champ.2) = [] := plain
    simp only [problemesDuRepli, if_pos plain', RepliValide]
    exact iff_of_true trivial fun cited => absurd plain cited
  · have plain' : (textes.flatMap fun champ => variablesDuTexte champ.2) ≠ [] := plain
    simp only [problemesDuRepli, if_neg plain', RepliValide, List.append_eq_nil_iff, texte_eq_nil]
    cases bloc.get "repli" with
    | str repli => simp [plain]
    | _ => simp [plain]

/-- A block the validator finds no problem in. -/
structure BlocValide (typeBloc : String) (textes : List (Champ × String)) (bloc : Json) :
    Prop where
  connu : typeConnu bloc = some typeBloc
  lisible : textesDuBloc bloc = .ok textes
  type : TypeValide typeBloc bloc
  riche : ∀ champ ∈ textes, TexteRicheValide champ.2
  repli : RepliValide bloc textes

theorem validerBloc_eq_ok_nil {unicode : Unicode} {bloc : Json} {position : Nat} :
    validerBloc unicode bloc position = .ok [] ↔
      ∃ typeBloc textes, BlocValide typeBloc textes bloc := by
  constructor
  · intro accepted
    cases bloc with
    | obj fields =>
        rw [validerBloc] at accepted
        cases connu : typeConnu (.obj fields) with
        | none =>
            rw [connu] at accepted
            cases accepted
        | some typeBloc =>
            simp only [connu] at accepted
            obtain ⟨textes, lisible, none⟩ := bind_eq_ok.mp accepted
            have problems := Except.ok.inj none
            rw [List.append_eq_nil_iff, List.append_eq_nil_iff, List.flatMap_eq_nil_iff] at problems
            obtain ⟨⟨type, riche⟩, repli⟩ := problems
            exact ⟨typeBloc, textes, connu, lisible, problemesDuType_eq_nil.mp type,
              fun champ member => validerTexteRiche_eq_nil.mp (riche champ member),
              problemesDuRepli_eq_nil.mp repli⟩
    | _ => cases accepted
  · rintro ⟨typeBloc, textes, valide⟩
    cases bloc with
    | obj fields =>
        simp only [validerBloc, valide.connu]
        refine bind_eq_ok.mpr ⟨textes, valide.lisible, congrArg Except.ok ?_⟩
        rw [List.append_eq_nil_iff, List.append_eq_nil_iff, List.flatMap_eq_nil_iff]
        exact ⟨⟨problemesDuType_eq_nil.mpr valide.type,
          fun champ member => validerTexteRiche_eq_nil.mpr (valide.riche champ member)⟩,
          problemesDuRepli_eq_nil.mpr valide.repli⟩
    | _ => cases valide.lisible

/-- A block that is accepted at every position. -/
def Accepte (bloc : Json) : Prop := ∃ typeBloc textes, BlocValide typeBloc textes bloc

theorem validerBlocs_eq_ok_nil {unicode : Unicode} {position : Nat} {blocs : List Json} :
    validerBlocs unicode position blocs = .ok [] ↔ ∀ bloc ∈ blocs, Accepte bloc := by
  induction blocs generalizing position with
  | nil => simp [validerBlocs]
  | cons bloc suite ih =>
      have suivants := @ih (position + 1)
      rw [List.forall_mem_cons, ← suivants, validerBlocs]
      constructor
      · intro accepted
        obtain ⟨problemes, first, rest⟩ := bind_eq_ok.mp accepted
        obtain ⟨autres, later, none⟩ := bind_eq_ok.mp rest
        obtain ⟨rfl, rfl⟩ := List.append_eq_nil_iff.mp (Except.ok.inj none)
        exact ⟨validerBloc_eq_ok_nil.mp first, later⟩
      · rintro ⟨first, later⟩
        exact bind_eq_ok.mpr ⟨[], validerBloc_eq_ok_nil.mpr first,
          bind_eq_ok.mpr ⟨[], later, rfl⟩⟩

/-- A content is accepted when it holds a block and every block is accepted. -/
theorem valider_eq_ok {unicode : Unicode} {blocs rendus : Json} :
    valider unicode blocs = .ok rendus ↔
      rendus = blocs ∧ ∃ elements, blocs = .arr elements ∧ elements ≠ [] ∧
        ∀ bloc ∈ elements, Accepte bloc := by
  constructor
  · intro accepted
    cases blocs with
    | arr elements =>
        cases elements with
        | nil => cases accepted
        | cons bloc suite =>
            obtain ⟨problemes, read, none⟩ := bind_eq_ok.mp accepted
            by_cases empty : problemes = []
            · subst empty
              exact ⟨(Except.ok.inj none).symm, _, rfl, List.cons_ne_nil _ _,
                validerBlocs_eq_ok_nil.mp read⟩
            · rw [if_neg empty] at none
              cases none
    | _ => cases accepted
  · rintro ⟨rfl, elements, rfl, nonempty, all⟩
    obtain ⟨bloc, suite, rfl⟩ := List.exists_cons_of_ne_nil nonempty
    exact bind_eq_ok.mpr ⟨[], validerBlocs_eq_ok_nil.mpr all, rfl⟩

/-! ## The texts of a block -/

theorem texteDe_eq_some {champ trouve : Champ} {valeur : Json} {contenu : String} :
    texteDe champ valeur = some (trouve, contenu) ↔ trouve = champ ∧ valeur = .str contenu := by
  cases valeur <;> simp [texteDe, eq_comm]

theorem mem_textesDesItems {rang : Nat} {items : List Json} {champ : Champ} {contenu : String} :
    (champ, contenu) ∈ textesDesItems rang items ↔
      ∃ index, champ = .items (rang + index) ∧ items[index]? = some (.str contenu) := by
  induction items generalizing rang with
  | nil => simp [textesDesItems]
  | cons item suite ih =>
      rw [textesDesItems, List.mem_append, Option.mem_toList, texteDe_eq_some, ih]
      constructor
      · rintro (⟨rfl, rfl⟩ | ⟨index, rfl, found⟩)
        · exact ⟨0, rfl, rfl⟩
        · exact ⟨index + 1, by rw [Nat.add_right_comm, Nat.add_assoc], found⟩
      · rintro ⟨index, rfl, found⟩
        cases index with
        | zero => exact .inl ⟨rfl, Option.some.inj found⟩
        | succ index => exact .inr ⟨index, by rw [Nat.add_right_comm, Nat.add_assoc], found⟩

/-- The fields outside the items. -/
def Champ.simples : List Champ := [.texte, .source, .alternative]

theorem textesDuBloc_eq_ok {bloc : Json} {textes : List (Champ × String)} :
    textesDuBloc bloc = .ok textes ↔
      (∃ fields, bloc = .obj fields) ∧ ∃ items, iterer (orEmpty (bloc.get "items")) = .ok items ∧
        textes = (Champ.simples.filterMap fun champ => texteDe champ (bloc.get champ.nom)) ++
          textesDesItems 1 items := by
  cases bloc with
  | obj fields =>
      rw [textesDuBloc]
      constructor
      · intro read
        obtain ⟨items, found, same⟩ := bind_eq_ok.mp read
        exact ⟨⟨fields, rfl⟩, items, found, (Except.ok.inj same).symm⟩
      · rintro ⟨_, items, found, rfl⟩
        exact bind_eq_ok.mpr ⟨items, found, rfl⟩
  | _ => simp [textesDuBloc]

section Textes

variable {bloc : Json} {textes : List (Champ × String)}

theorem mem_textes_simple (read : textesDuBloc bloc = .ok textes) {champ : Champ}
    (simple : champ ∈ Champ.simples) {contenu : String} :
    (champ, contenu) ∈ textes ↔ bloc.get champ.nom = .str contenu := by
  obtain ⟨_, items, _, rfl⟩ := textesDuBloc_eq_ok.mp read
  rw [List.mem_append, List.mem_filterMap, mem_textesDesItems]
  constructor
  · rintro (⟨other, _, found⟩ | ⟨index, rfl, _⟩)
    · obtain ⟨rfl, holds⟩ := texteDe_eq_some.mp found
      exact holds
    · simp [Champ.simples] at simple
  · intro holds
    exact .inl ⟨champ, simple, texteDe_eq_some.mpr ⟨rfl, holds⟩⟩

theorem iterer_orEmpty_arr (items : List Json) : iterer (orEmpty (.arr items)) = .ok items := by
  cases items <;> rfl

theorem exists_mem_textes_items (read : textesDuBloc bloc = .ok textes) {items : List Json}
    (listed : bloc.get "items" = .arr items) {contenu : String} :
    (∃ rang, (.items rang, contenu) ∈ textes) ↔ .str contenu ∈ items := by
  obtain ⟨_, found, iterated, rfl⟩ := textesDuBloc_eq_ok.mp read
  rw [listed, iterer_orEmpty_arr] at iterated
  obtain rfl := Except.ok.inj iterated
  rw [List.mem_iff_getElem?]
  constructor
  · rintro ⟨rang, member⟩
    rcases List.mem_append.mp member with inFields | inItems
    · obtain ⟨champ, simple, same⟩ := List.mem_filterMap.mp inFields
      obtain ⟨rfl, _⟩ := texteDe_eq_some.mp same
      simp [Champ.simples] at simple
    · obtain ⟨index, _, holds⟩ := mem_textesDesItems.mp inItems
      exact ⟨index, holds⟩
  · rintro ⟨index, holds⟩
    exact ⟨1 + index, List.mem_append_right _ (mem_textesDesItems.mpr ⟨index, rfl, holds⟩)⟩

end Textes

/-! ## When the validation ends -/

/-- A text, a list or a dictionary. -/
def estUneSuite : Json → Bool
  | .str _ | .arr _ | .obj _ => true
  | _ => false

/-- The `items` of the block, when they are there and not false, can be gone through. -/
def Parcourable (bloc : Json) : Prop :=
  typeConnu bloc ≠ none → (bloc.get "items").isTruthy = true →
    estUneSuite (bloc.get "items") = true

/-- Every block of a known type can be gone through. -/
def Lisible (blocs : Json) : Prop :=
  ∀ elements, blocs = .arr elements → ∀ bloc ∈ elements, Parcourable bloc

theorem iterer_orEmpty (valeur : Json) :
    (∃ items, iterer (orEmpty valeur) = .ok items) ↔
      (valeur.isTruthy = true → estUneSuite valeur = true) := by
  by_cases truthy : valeur.isTruthy = true
  · rw [orEmpty, if_pos truthy]
    cases valeur with
    | null => cases truthy
    | _ => simp [iterer, estUneSuite, truthy]
  · rw [orEmpty, if_neg truthy]
    exact iff_of_true ⟨[], rfl⟩ fun holds => absurd holds truthy

theorem iterer_ne_blocInvalide (valeur : Json) (problemes : List String) :
    iterer valeur ≠ .error (.blocInvalide problemes) := by
  cases valeur <;> simp [iterer]

theorem exists_validerBloc {unicode : Unicode} {bloc : Json} {position : Nat} :
    (∃ problemes, validerBloc unicode bloc position = .ok problemes) ↔ Parcourable bloc := by
  cases bloc with
  | obj fields =>
      rw [validerBloc, Parcourable, ← iterer_orEmpty]
      cases connu : typeConnu (.obj fields) with
      | none => simp
      | some typeBloc =>
          constructor
          · rintro ⟨problemes, read⟩ _
            obtain ⟨textes, lisible, _⟩ := bind_eq_ok.mp read
            obtain ⟨_, items, iterated, _⟩ := textesDuBloc_eq_ok.mp lisible
            exact ⟨items, iterated⟩
          · intro iterable
            obtain ⟨items, iterated⟩ := iterable (by simp)
            have lisible := textesDuBloc_eq_ok.mpr ⟨⟨fields, rfl⟩, items, iterated, rfl⟩
            exact ⟨_, bind_eq_ok.mpr ⟨_, lisible, rfl⟩⟩
  | _ => simp [validerBloc, Parcourable, typeConnu, Json.get]

theorem validerBloc_ne_blocInvalide {unicode : Unicode} (bloc : Json) (position : Nat)
    (problemes : List String) :
    validerBloc unicode bloc position ≠ .error (.blocInvalide problemes) := by
  intro refused
  cases bloc with
  | obj fields =>
      rw [validerBloc] at refused
      cases connu : typeConnu (.obj fields) with
      | none =>
          rw [connu] at refused
          cases refused
      | some typeBloc =>
          simp only [connu] at refused
          rcases bind_eq_error.mp refused with unread | ⟨textes, _, impossible⟩
          · rcases bind_eq_error.mp unread with stopped | ⟨items, _, impossible⟩
            · exact iterer_ne_blocInvalide _ problemes stopped
            · cases impossible
          · cases impossible
  | _ => cases refused

theorem exists_validerBlocs {unicode : Unicode} {position : Nat} {blocs : List Json} :
    (∃ problemes, validerBlocs unicode position blocs = .ok problemes) ↔
      ∀ bloc ∈ blocs, Parcourable bloc := by
  induction blocs generalizing position with
  | nil => simp [validerBlocs]
  | cons bloc suite ih =>
      have suivants := @ih (position + 1)
      have ici : (∃ problemes, validerBloc unicode bloc position = .ok problemes) ↔
          Parcourable bloc := exists_validerBloc
      rw [List.forall_mem_cons, ← suivants, ← ici, validerBlocs]
      constructor
      · rintro ⟨problemes, accepted⟩
        obtain ⟨premiers, first, rest⟩ := bind_eq_ok.mp accepted
        obtain ⟨autres, later, _⟩ := bind_eq_ok.mp rest
        exact ⟨⟨premiers, first⟩, autres, later⟩
      · rintro ⟨⟨premiers, first⟩, autres, later⟩
        exact ⟨_, bind_eq_ok.mpr ⟨premiers, first, bind_eq_ok.mpr ⟨autres, later, rfl⟩⟩⟩

theorem validerBlocs_ne_blocInvalide {unicode : Unicode} {position : Nat} {blocs : List Json}
    (problemes : List String) :
    validerBlocs unicode position blocs ≠ .error (.blocInvalide problemes) := by
  induction blocs generalizing position with
  | nil => simp [validerBlocs]
  | cons bloc suite ih =>
      intro refused
      rcases bind_eq_error.mp refused with first | ⟨premiers, _, rest⟩
      · exact validerBloc_ne_blocInvalide bloc position problemes first
      · rcases bind_eq_error.mp rest with later | ⟨autres, _, impossible⟩
        · exact ih later
        · cases impossible

/-- The validation returns the content or refuses it exactly when it can go through
every block. -/
theorem valider_termine {unicode : Unicode} (blocs : Json) :
    (valider unicode blocs = .ok blocs ∨
        ∃ problemes, valider unicode blocs = .error (.blocInvalide problemes)) ↔
      Lisible blocs := by
  cases blocs with
  | arr elements =>
      cases elements with
      | nil => exact iff_of_true (.inr ⟨_, rfl⟩) (by simp [Lisible])
      | cons bloc suite =>
          have lisible : Lisible (.arr (bloc :: suite)) ↔
              ∃ problemes, validerBlocs unicode 1 (bloc :: suite) = .ok problemes := by
            rw [exists_validerBlocs]
            constructor
            · intro all
              exact all _ rfl
            · rintro all elements same
              cases same
              exact all
          rw [lisible]
          constructor
          · rintro (accepted | ⟨problemes, refused⟩)
            · obtain ⟨problemes, read, _⟩ := bind_eq_ok.mp accepted
              exact ⟨problemes, read⟩
            · rcases bind_eq_error.mp refused with stopped | ⟨found, read, _⟩
              · exact absurd stopped (validerBlocs_ne_blocInvalide problemes)
              · exact ⟨found, read⟩
          · rintro ⟨problemes, read⟩
            by_cases empty : problemes = []
            · subst empty
              exact .inl (bind_eq_ok.mpr ⟨[], read, rfl⟩)
            · exact .inr ⟨problemes, bind_eq_error.mpr (.inr ⟨problemes, read, if_neg empty⟩)⟩
  | _ => exact iff_of_true (.inr ⟨_, rfl⟩) (by simp [Lisible])

end RssiService.Training.Blocks
