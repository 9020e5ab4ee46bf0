import RssiService.RegulatoryWatch.Sources

/-!
# The publications of a feed

An entry with a title or a link is a publication, and it is known by its guid, or by its
title and its link.  Both formats read the same of it.
-/

namespace RssiService.RegulatoryWatch

open Foundation Python

/-! ## What a document publishes -/

/-- What an entry is known by. -/
structure Heading where
  guid : String
  titre : String
  lien : String
  deriving DecidableEq, Repr

def entryTag : WatchSource.Format → String
  | .atom => atom ++ "entry"
  | .rss | .page => "item"

def heading (runtime : FeedRuntime) (format : WatchSource.Format) (element : Element) : Heading :=
  match format with
  | .atom =>
      { guid := element.findtext (atom ++ "id")
        titre := texte runtime (element.find (atom ++ "title"))
        lien := lienAtom "" (element.findall (atom ++ "link")) }
  | .rss | .page =>
      { guid := element.findtext "guid"
        titre := texte runtime (element.find "title")
        lien := strip (element.findtext "link") }

def dateText (format : WatchSource.Format) (element : Element) : String :=
  match format with
  | .atom => textOr (element.findtext (atom ++ "published")) (element.findtext (atom ++ "updated"))
  | .rss | .page => textOr (element.findtext "pubDate") (element.findtext (dc ++ "date"))

def Heading.isPublished (heading : Heading) : Bool := heading.titre ≠ "" || heading.lien ≠ ""

/-- The entries of a document that have a title or a link. -/
def publications (runtime : FeedRuntime) (format : WatchSource.Format) (racine : Element) :
    List Element :=
  (racine.iter (entryTag format)).filter fun element => (heading runtime format element).isPublished

/-- A publication is known by its guid, or without one by its title and its link. -/
inductive Key where
  | guid (text : String)
  | pair (titre lien : String)
  deriving DecidableEq, Repr

def Heading.key (heading : Heading) : Key :=
  if strip heading.guid = "" then .pair heading.titre heading.lien else .guid heading.guid

def Heading.identifier (runtime : FeedRuntime) (heading : Heading) : String :=
  identifiant runtime heading.guid heading.titre heading.lien

/-- A later document has no publication that is not known: it is the same one, or its entries
are in another order, or their titles were corrected under the same guids. -/
def Revises (runtime : FeedRuntime) (format : WatchSource.Format) (racine revised : Element) :
    Prop :=
  ∀ element ∈ publications runtime format revised, ∃ earlier ∈ publications runtime format racine,
    (heading runtime format element).key = (heading runtime format earlier).key

/-! ## Reading the entries -/

/-- The date of an entry stops the reading. -/
def DateRaises (runtime : FeedRuntime) (text : String) : Prop :=
  strip text ≠ "" ∧ runtime.fromIsoFormat (sansZulu (strip text)) = none ∧
    runtime.parseMailDate (strip text) = .raises

section Reading

variable {runtime : FeedRuntime} {format : WatchSource.Format} {elements : List Element}

def readEntry (runtime : FeedRuntime) (format : WatchSource.Format) (element : Element) :
    Except FeedFailure (Option FeedEntry) :=
  match format with
  | .atom => atomEntry runtime element
  | .rss | .page => rssEntry runtime element

theorem parse_eq (payload : List UInt8) :
    parse runtime payload format =
      parseEntries runtime payload (entryTag format) (readEntry runtime format) := by
  cases format <;> rfl

/-- What is kept of an entry. -/
def kept (entry : FeedEntry) : String × String × String :=
  (entry.externalId, entry.title, entry.url)

def expected (runtime : FeedRuntime) (heading : Heading) : String × String × String :=
  (heading.identifier runtime, takeChars heading.titre 500, takeChars heading.lien 1000)

theorem fst_kept (entry : FeedEntry) : (kept entry).1 = entry.externalId := rfl

theorem fst_expected (heading : Heading) :
    (expected runtime heading).1 = heading.identifier runtime := by
  rw [expected]

theorem date_eq_error_iff {text : String} {failure : FeedFailure} :
    date runtime text = .error failure ↔ DateRaises runtime text ∧ failure = .autre := by
  rw [date, DateRaises]
  by_cases blank : strip text = ""
  · rw [if_pos blank]
    exact iff_of_false (by rintro ⟨⟩) fun both => both.1.1 blank
  rw [if_neg blank]
  cases iso : runtime.fromIsoFormat (sansZulu (strip text)) with
  | some value => exact iff_of_false (by rintro ⟨⟩) (by rintro ⟨⟨_, ⟨⟩, _⟩, _⟩)
  | none =>
      cases mail : runtime.parseMailDate (strip text) with
      | date value => exact iff_of_false (by rintro ⟨⟩) (by rintro ⟨⟨_, _, ⟨⟩⟩, _⟩)
      | invalid => exact iff_of_false (by rintro ⟨⟩) (by rintro ⟨⟨_, _, ⟨⟩⟩, _⟩)
      | raises =>
          constructor
          · rintro ⟨⟩
            exact ⟨⟨blank, rfl, rfl⟩, rfl⟩
          · rintro ⟨_, rfl⟩
            rfl

/-- The entry under a heading. -/
def entryOf (runtime : FeedRuntime) (heading : Heading) (excerpt : String)
    (publishedAt : Option DateTime) : FeedEntry where
  externalId := heading.identifier runtime
  title := takeChars heading.titre 500
  url := takeChars heading.lien 1000
  publishedAt
  excerpt

theorem kept_entryOf (heading : Heading) (excerpt : String) (publishedAt : Option DateTime) :
    kept (entryOf runtime heading excerpt publishedAt) = expected runtime heading := by
  rw [kept, entryOf, expected]

theorem read_of_heading (build : Option DateTime → FeedEntry) (heading : Heading) (text : String) :
    (if (heading.titre = "" && heading.lien = "") = true then .ok none
      else do
        let publishedAt ← date runtime text
        return some (build publishedAt)) =
      if heading.isPublished then
        (date runtime text).map fun publishedAt => some (build publishedAt)
      else .ok none := by
  have bound : (do
      let publishedAt ← date runtime text
      return some (build publishedAt)) =
        (date runtime text).map fun publishedAt => some (build publishedAt) := by
    cases date runtime text <;> rfl
  rw [bound, Heading.isPublished]
  by_cases titled : heading.titre = "" <;> by_cases linked : heading.lien = "" <;>
    simp [titled, linked]

theorem rssEntry_eq (item : Element) :
    rssEntry runtime item =
      if (heading runtime .rss item).isPublished then
        (date runtime (dateText .rss item)).map fun publishedAt =>
          some (entryOf runtime (heading runtime .rss item)
            (texte runtime (item.find "description")) publishedAt)
      else .ok none := by
  rw [← read_of_heading]
  unfold rssEntry heading dateText entryOf Heading.identifier
  with_reducible rfl

theorem atomEntry_eq (entree : Element) :
    atomEntry runtime entree =
      if (heading runtime .atom entree).isPublished then
        (date runtime (dateText .atom entree)).map fun publishedAt =>
          some (entryOf runtime (heading runtime .atom entree)
            (textOr (texte runtime (entree.find (atom ++ "summary")))
              (texte runtime (entree.find (atom ++ "content")))) publishedAt)
      else .ok none := by
  rw [← read_of_heading]
  unfold atomEntry heading dateText entryOf Heading.identifier
  with_reducible rfl

/-- Both formats read the date of an entry that has a title or a link. -/
theorem readEntry_eq (runtime : FeedRuntime) (format : WatchSource.Format) (element : Element) :
    ∃ excerpt, readEntry runtime format element =
      if (heading runtime format element).isPublished then
        (date runtime (dateText format element)).map fun publishedAt =>
          some (entryOf runtime (heading runtime format element) excerpt publishedAt)
      else .ok none := by
  cases format with
  | atom => exact ⟨_, atomEntry_eq element⟩
  | rss => exact ⟨_, rssEntry_eq element⟩
  | page => exact ⟨_, rssEntry_eq element⟩

theorem readEntry_of_unpublished {element : Element}
    (bare : (heading runtime format element).isPublished = false) :
    readEntry runtime format element = .ok none := by
  obtain ⟨excerpt, read⟩ := readEntry_eq runtime format element
  rw [read, bare]
  rfl

/-- A publication is read, unless its date stops the reading. -/
theorem readEntry_of_published {element : Element}
    (published : (heading runtime format element).isPublished = true) :
    (DateRaises runtime (dateText format element) ∧
      readEntry runtime format element = .error .autre) ∨
    (¬DateRaises runtime (dateText format element) ∧
      ∃ entry, readEntry runtime format element = .ok (some entry) ∧
        kept entry = expected runtime (heading runtime format element)) := by
  obtain ⟨excerpt, read⟩ := readEntry_eq runtime format element
  rw [read, published, if_pos rfl]
  cases dated : date runtime (dateText format element) with
  | error failure =>
      obtain ⟨raises, rfl⟩ := date_eq_error_iff.mp dated
      exact .inl ⟨raises, rfl⟩
  | ok publishedAt =>
      refine .inr ⟨fun raises => ?_, _, rfl, kept_entryOf _ excerpt publishedAt⟩
      cases dated.symm.trans (date_eq_error_iff.mpr ⟨raises, rfl⟩)

/-- Without a date that stops the reading, each publication is read. -/
theorem mapM_readEntry (fine : ∀ element ∈ elements.filter fun element =>
      (heading runtime format element).isPublished, ¬DateRaises runtime (dateText format element)) :
    ∃ read, elements.mapM (readEntry runtime format) = .ok read ∧
      (read.filterMap id).map kept =
        (elements.filter fun element => (heading runtime format element).isPublished).map
          fun element => expected runtime (heading runtime format element) := by
  induction elements with
  | nil => exact ⟨[], rfl, rfl⟩
  | cons element rest ih =>
      cases published : (heading runtime format element).isPublished with
      | false =>
          rw [List.filter_cons, published, if_neg Bool.false_ne_true] at fine ⊢
          obtain ⟨read, all, same⟩ := ih fine
          refine ⟨none :: read, ?_, same⟩
          rw [List.mapM_cons, readEntry_of_unpublished published, all]
          rfl
      | true =>
          rw [List.filter_cons, published, if_pos rfl] at fine ⊢
          rw [List.forall_mem_cons] at fine
          obtain ⟨read, all, same⟩ := ih fine.2
          rcases readEntry_of_published published with ⟨raises, _⟩ | ⟨_, entry, here, mine⟩
          · exact absurd raises fine.1
          · refine ⟨some entry :: read, ?_, ?_⟩
            · rw [List.mapM_cons, here, all]
              rfl
            · exact congrArg₂ List.cons mine same

/-- The date of one publication stops the reading of them all. -/
theorem mapM_readEntry_raises {element : Element} (listed : element ∈ elements)
    (published : (heading runtime format element).isPublished = true)
    (raises : DateRaises runtime (dateText format element)) :
    elements.mapM (readEntry runtime format) = .error .autre := by
  induction elements with
  | nil => cases listed
  | cons first rest ih =>
      rw [List.mapM_cons, Outcome.bind_eq_error]
      cases here : readEntry runtime format first with
      | error failure =>
          left
          cases shown : (heading runtime format first).isPublished with
          | false => cases here.symm.trans (readEntry_of_unpublished shown)
          | true =>
              rcases readEntry_of_published shown with ⟨_, stops⟩ | ⟨_, entry, reads, _⟩
              · exact here.symm.trans stops
              · cases here.symm.trans reads
      | ok value =>
          refine .inr ⟨value, rfl, Outcome.bind_eq_error.mpr (.inl ?_)⟩
          rcases List.mem_cons.mp listed with rfl | later
          · rcases readEntry_of_published published with ⟨_, stops⟩ | ⟨fine, _⟩
            · cases here.symm.trans stops
            · exact absurd raises fine
          · exact ih later

/-- What a feed answers, where nothing stops its reading. -/
theorem parse_of_tree {payload : List UInt8} {racine : Element}
    (wellFormed : runtime.fromString payload = .tree racine)
    (fine : ∀ element ∈ publications runtime format racine,
      ¬DateRaises runtime (dateText format element)) :
    ∃ entries : List FeedEntry, parse runtime payload format = .ok (entries.take maxItemsPerPoll) ∧
      entries.map kept = (publications runtime format racine).map fun element =>
        expected runtime (heading runtime format element) := by
  obtain ⟨read, all, same⟩ := mapM_readEntry fine
  refine ⟨read.filterMap id, ?_, same⟩
  rw [parse_eq, parseEntries, wellFormed]
  dsimp only
  rw [all]
  rfl

theorem parse_of_raises {payload : List UInt8} {racine element : Element}
    (wellFormed : runtime.fromString payload = .tree racine)
    (listed : element ∈ publications runtime format racine)
    (raises : DateRaises runtime (dateText format element)) :
    parse runtime payload format = .error .autre := by
  obtain ⟨inside, published⟩ := List.mem_filter.mp listed
  rw [parse_eq, parseEntries, wellFormed]
  dsimp only
  rw [mapM_readEntry_raises inside published raises]
  rfl

end Reading

end RssiService.RegulatoryWatch
