import RssiService.Foundation.Outcome
import RssiService.Python.Text

/-!
# Feeds

A feed is a tree of elements, of which the entries are read; a page without a feed is
known by the fingerprint of its text.  Nothing here writes to the tables.
-/

namespace RssiService.RegulatoryWatch

open Foundation Python

/-! ## Trees -/

inductive Element where
  | mk (tag : String) (attributes : List (String × String)) (text : String)
      (children : List Element) (tail : String)

namespace Element

def tag : Element → String
  | .mk tag _ _ _ _ => tag

def text : Element → String
  | .mk _ _ text _ _ => text

def children : Element → List Element
  | .mk _ _ _ children _ => children

def tail : Element → String
  | .mk _ _ _ _ tail => tail

def get (element : Element) (name default : String) : String :=
  match element with
  | .mk _ attributes _ _ _ =>
      ((attributes.find? fun pair => pair.1 = name).map Prod.snd).getD default

mutual

/-- The text of an element and of what is in it. -/
def itertext : Element → String
  | .mk _ _ text children _ => text ++ itertexts children

def itertexts : List Element → String
  | [] => ""
  | child :: rest => itertext child ++ child.tail ++ itertexts rest

end

mutual

/-- The elements of a tag, in the order of the document. -/
def iter (sought : String) : Element → List Element
  | .mk tag attributes text children tail =>
      (if tag = sought then [.mk tag attributes text children tail] else []) ++
        iters sought children

def iters (sought : String) : List Element → List Element
  | [] => []
  | child :: rest => iter sought child ++ iters sought rest

end

def find (element : Element) (sought : String) : Option Element :=
  element.children.find? fun child => child.tag = sought

def findall (element : Element) (sought : String) : List Element :=
  element.children.filter fun child => child.tag = sought

/-- `findtext(sought) or ""`. -/
def findtext (element : Element) (sought : String) : String :=
  ((element.find sought).map text).getD ""

end Element

def atom : String := "{http://www.w3.org/2005/Atom}"

def dc : String := "{http://purl.org/dc/elements/1.1/}"

def maxFeedBytes : Nat := 5 * 1024 * 1024

def maxItemsPerPoll : Nat := 50

def maxExcerptChars : Nat := 4000

/-! ## What the libraries answer -/

/-- A date with its time zone, if it has one. -/
structure DateTime where
  wall : Int
  offset : Option Int
  deriving DecidableEq, Repr

/-- What the reading of a date in a mail ends with. -/
inductive MailDate where
  | date (value : DateTime)
  | invalid
  | raises
  deriving DecidableEq, Repr

inductive XmlDocument where
  | tree (racine : Element)
  | parseError (message : String)
  | raises

/-- The standard library: a digest has sixty-four digits, and an encoding that is not known
is not decoded. -/
structure FeedRuntime where
  sha256 : String → String
  sha256_length : ∀ text, (sha256 text).length = 64
  unescape : String → String
  fromIsoFormat : String → Option DateTime
  parseMailDate : String → MailDate
  fromString : List UInt8 → XmlDocument
  decode : String → List UInt8 → Option String

/-- How the reading of a feed fails: it is unreadable, or an exception that the reading
does not expect. -/
inductive FeedFailure where
  | illisible (message : String)
  | autre
  deriving DecidableEq, Repr

structure FeedEntry where
  externalId : String
  title : String
  url : String
  publishedAt : Option DateTime
  excerpt : String
  deriving DecidableEq, Repr

/-! ## Texts -/

/-- Replace the tags by a space; `opened` is what was read of a tag, the last first. -/
def sansBalises : Option (List Char) → List Char → List Char
  | none, [] => []
  | some opened, [] => '<' :: opened.reverse
  | none, symbol :: rest =>
      if symbol = '<' then sansBalises (some []) rest else symbol :: sansBalises none rest
  | some opened, symbol :: rest =>
      if symbol = '>' then
        -- `<>` has nothing inside, and is no tag
        if opened = [] then '<' :: '>' :: sansBalises none rest else ' ' :: sansBalises none rest
      else sansBalises (some (symbol :: opened)) rest

/-- Replace each run of spaces by one. -/
def espaces : Bool → List Char → List Char
  | _, [] => []
  | inRun, symbol :: rest =>
      if isSpace symbol then
        if inRun then espaces true rest else ' ' :: espaces true rest
      else symbol :: espaces false rest

def normalise (text : List Char) : String := strip (String.ofList (espaces false text))

def texte (runtime : FeedRuntime) : Option Element → String
  | none => ""
  | some element =>
      let brut := String.ofList (sansBalises none element.itertext.toList)
      let unescaped := runtime.unescape (runtime.unescape brut)
      takeChars (normalise (unescaped.toList.map fun symbol =>
        if symbol = '\u00a0' then ' ' else symbol)) maxExcerptChars

/-- `valeur.replace("Z", "+00:00")`. -/
def sansZulu (valeur : String) : String :=
  String.ofList (valeur.toList.flatMap fun symbol =>
    if symbol = 'Z' then "+00:00".toList else [symbol])

/-- The two formats of date of the feeds.  An unreadable date is no date. -/
def date (runtime : FeedRuntime) (valeur : String) : Except FeedFailure (Option DateTime) :=
  if strip valeur = "" then .ok none
  else
    match runtime.fromIsoFormat (sansZulu (strip valeur)) with
    | some value => .ok (some value)
    | none =>
        match runtime.parseMailDate (strip valeur) with
        | .date value => .ok (some { value with offset := value.offset <|> some 0 })
        | .invalid => .ok none
        | .raises => .error .autre

def fingerprint (runtime : FeedRuntime) (contenu : String) : String := runtime.sha256 contenu

/-- The identifier of the source, or the fingerprint of the title and the link. -/
def identifiant (runtime : FeedRuntime) (candidat titre lien : String) : String :=
  if strip candidat = "" then fingerprint runtime (titre ++ "\n" ++ lien)
  else takeChars (strip candidat) 200

/-! ## Entries -/

def rssEntry (runtime : FeedRuntime) (item : Element) : Except FeedFailure (Option FeedEntry) :=
  let titre := texte runtime (item.find "title")
  let lien := strip (item.findtext "link")
  if titre = "" && lien = "" then .ok none
  else do
    let publishedAt ← date runtime (textOr (item.findtext "pubDate") (item.findtext (dc ++ "date")))
    return some
      { externalId := identifiant runtime (item.findtext "guid") titre lien
        title := takeChars titre 500
        url := takeChars lien 1000
        publishedAt
        excerpt := texte runtime (item.find "description") }

/-- The link of an entry: the alternate one, or the first. -/
def lienAtom : String → List Element → String
  | lien, [] => lien
  | lien, balise :: rest =>
      let relation := balise.get "rel" "alternate"
      let retenu := if relation = "alternate" || lien = "" then balise.get "href" "" else lien
      if relation = "alternate" then retenu else lienAtom retenu rest

def atomEntry (runtime : FeedRuntime) (entree : Element) :
    Except FeedFailure (Option FeedEntry) :=
  let titre := texte runtime (entree.find (atom ++ "title"))
  let lien := lienAtom "" (entree.findall (atom ++ "link"))
  if titre = "" && lien = "" then .ok none
  else do
    let publishedAt ← date runtime
      (textOr (entree.findtext (atom ++ "published")) (entree.findtext (atom ++ "updated")))
    return some
      { externalId := identifiant runtime (entree.findtext (atom ++ "id")) titre lien
        title := takeChars titre 500
        url := takeChars lien 1000
        publishedAt
        excerpt := textOr (texte runtime (entree.find (atom ++ "summary")))
          (texte runtime (entree.find (atom ++ "content"))) }

/-- Read the entries of a tag, the first ones only. -/
def parseEntries (runtime : FeedRuntime) (payload : List UInt8) (tag : String)
    (entry : Element → Except FeedFailure (Option FeedEntry)) :
    Except FeedFailure (List FeedEntry) :=
  match runtime.fromString payload with
  | .parseError message => .error (.illisible ("XML illisible : " ++ message))
  | .raises => .error .autre
  | .tree racine => do
      let entrees ← (racine.iter tag).mapM entry
      return (entrees.filterMap id).take maxItemsPerPoll

def parseRss (runtime : FeedRuntime) (payload : List UInt8) : Except FeedFailure (List FeedEntry) :=
  parseEntries runtime payload "item" (rssEntry runtime)

def parseAtom (runtime : FeedRuntime) (payload : List UInt8) :
    Except FeedFailure (List FeedEntry) :=
  parseEntries runtime payload (atom ++ "entry") (atomEntry runtime)

/-! ### Entries fit the columns of their table -/

structure FeedEntry.Fits (entry : FeedEntry) : Prop where
  externalId : entry.externalId.length ≤ 200
  title : entry.title.length ≤ 500
  url : entry.url.length ≤ 1000
  excerpt : entry.excerpt.length ≤ maxExcerptChars

section Fits

variable {runtime : FeedRuntime} {element : Element} {entry : FeedEntry}

theorem length_takeChars_le (text : String) (count : Nat) :
    (takeChars text count).length ≤ count := by
  rw [takeChars, String.length_ofList]
  exact List.length_take_le _ _

theorem length_texte_le (found : Option Element) :
    (texte runtime found).length ≤ maxExcerptChars := by
  cases found with
  | none => exact Nat.zero_le _
  | some element => exact length_takeChars_le _ _

theorem length_textOr_le {first second : String} {bound : Nat} (left : first.length ≤ bound)
    (right : second.length ≤ bound) : (textOr first second).length ≤ bound := by
  rw [textOr]
  split
  · exact right
  · exact left

theorem length_identifiant_le (runtime : FeedRuntime) (candidat titre lien : String) :
    (identifiant runtime candidat titre lien).length ≤ 200 := by
  rw [identifiant]
  split
  · rw [fingerprint, runtime.sha256_length]
    decide
  · exact length_takeChars_le _ _

theorem fits_rssEntry (read : rssEntry runtime element = .ok (some entry)) : entry.Fits := by
  rw [rssEntry] at read
  split at read
  · cases read
  · obtain ⟨publishedAt, _, read⟩ := Outcome.bind_eq_ok.mp read
    obtain rfl := Option.some.inj (Except.ok.inj read)
    constructor
    · dsimp only
      exact length_identifiant_le _ _ _ _
    · exact length_takeChars_le _ _
    · exact length_takeChars_le _ _
    · exact length_texte_le _

theorem fits_atomEntry (read : atomEntry runtime element = .ok (some entry)) : entry.Fits := by
  rw [atomEntry] at read
  split at read
  · cases read
  · obtain ⟨publishedAt, _, read⟩ := Outcome.bind_eq_ok.mp read
    obtain rfl := Option.some.inj (Except.ok.inj read)
    constructor
    · dsimp only
      exact length_identifiant_le _ _ _ _
    · exact length_takeChars_le _ _
    · exact length_takeChars_le _ _
    · exact length_textOr_le (length_texte_le _) (length_texte_le _)

theorem parseEntries_bounded {payload : List UInt8} {sought : String}
    {read : Element → Except FeedFailure (Option FeedEntry)} {entries : List FeedEntry}
    (fits : ∀ {element entry}, read element = .ok (some entry) → entry.Fits)
    (parsed : parseEntries runtime payload sought read = .ok entries) :
    entries.length ≤ maxItemsPerPoll ∧ ∀ entry ∈ entries, entry.Fits := by
  rw [parseEntries] at parsed
  split at parsed
  · cases parsed
  · cases parsed
  · obtain ⟨found, all, parsed⟩ := Outcome.bind_eq_ok.mp parsed
    cases parsed
    refine ⟨List.length_take_le _ _, fun entry listed => ?_⟩
    obtain ⟨item, kept, same⟩ := List.mem_filterMap.mp (List.mem_of_mem_take listed)
    cases same
    obtain ⟨element, _, visited⟩ := Outcome.exists_of_mem_mapM_ok all kept
    exact fits visited

theorem parseRss_bounded {payload : List UInt8} {entries : List FeedEntry}
    (parsed : parseRss runtime payload = .ok entries) :
    entries.length ≤ maxItemsPerPoll ∧ ∀ entry ∈ entries, entry.Fits :=
  parseEntries_bounded fits_rssEntry parsed

theorem parseAtom_bounded {payload : List UInt8} {entries : List FeedEntry}
    (parsed : parseAtom runtime payload = .ok entries) :
    entries.length ≤ maxItemsPerPoll ∧ ∀ entry ∈ entries, entry.Fits :=
  parseEntries_bounded fits_atomEntry parsed

end Fits

/-! ## Pages -/

/-- What is read of a page: its text, without the tags and with one space at a time. -/
def texteDePage (contenu : String) : String := normalise (sansBalises none contenu.toList)

/-- The fingerprint of a page, and the excerpt that is kept. -/
def pageSignature (runtime : FeedRuntime) (contenu : String) : String × String :=
  (fingerprint runtime (texteDePage contenu), takeChars (texteDePage contenu) maxExcerptChars)

end RssiService.RegulatoryWatch
