import RssiService.Foundation.Interruption
import RssiService.Foundation.Run
import RssiService.Foundation.Table
import RssiService.RegulatoryWatch.Feeds

/-!
# Sources

A source is polled: a feed gives its entries and a page its fingerprint, and what is new
becomes a suggestion.  Each write of a poll is kept as soon as it is made.
-/

namespace RssiService.RegulatoryWatch

open Foundation Foundation.Run Foundation.Interruption Python

/-! ## Rows -/

namespace WatchSource

inductive Format where
  | rss
  | atom
  | page
  deriving DecidableEq, Repr

end WatchSource

structure WatchSource where
  id : Nat
  slug : String
  name : String
  publisher : String
  url : String
  feedUrl : String
  format : WatchSource.Format
  isActive : Bool
  lastPolledAt : Option Nat
  lastSuccessAt : Option Nat
  lastError : String
  consecutiveFailures : Nat
  contentFingerprint : String
  deriving DecidableEq, Repr

namespace WatchUpdate

inductive Status where
  | new
  | kept
  | integrated
  | dismissed
  deriving DecidableEq, Repr

inductive Kind where
  | unqualified
  | newRequirement
  | update
  | information
  deriving DecidableEq, Repr

end WatchUpdate

/-- A publication that was detected, and what was decided about it. -/
structure WatchUpdate where
  id : Nat
  source : Nat
  externalId : String
  title : String
  url : String
  publishedAt : Option DateTime
  sourceExcerpt : String
  detectedAt : Nat
  status : WatchUpdate.Status
  kind : WatchUpdate.Kind
  reviewedBy : Option Nat
  reviewedAt : Option Nat
  reviewNote : String
  targetReferential : Option Nat
  integratedMeasures : List Nat
  deriving DecidableEq, Repr

instance : Identified WatchSource := ⟨WatchSource.id⟩
instance : Identified WatchUpdate := ⟨WatchUpdate.id⟩

structure Watch where
  sources : Table WatchSource
  updates : Table WatchUpdate

/-! ## Health -/

def failureThreshold : Nat := 3

/-- The greatest value of the column of the counter. -/
def maxFailures : Nat := 32767

/-- There is an address to poll. -/
def WatchSource.isConfigured (source : WatchSource) : Bool :=
  source.format = .page || source.feedUrl ≠ ""

structure FailingSource where
  slug : String
  name : String
  consecutiveFailures : Nat
  lastError : String
  lastSuccessAt : Option Nat
  deriving DecidableEq, Repr

structure SourcesHealth where
  total : Nat
  active : Nat
  failing : List FailingSource
  unconfigured : List (String × String)
  deriving DecidableEq, Repr

def WatchSource.display (source : WatchSource) : String := source.publisher ++ " — " ++ source.name

def WatchSource.isFailing (source : WatchSource) : Bool :=
  failureThreshold ≤ source.consecutiveFailures

def WatchSource.failing (source : WatchSource) : FailingSource :=
  ⟨source.slug, source.display, source.consecutiveFailures, source.lastError, source.lastSuccessAt⟩

def Watch.sourcesHealth (watch : Watch) : SourcesHealth where
  total := watch.sources.rows.length
  active := watch.sources.rows.countP WatchSource.isActive
  failing := (watch.sources.rows.filter WatchSource.isFailing).map WatchSource.failing
  unconfigured := (watch.sources.rows.filter fun source => !source.isConfigured).map fun source =>
    (source.slug, source.display)

/-! ## Writes -/

inductive PollWrite where
  | succes (source : Nat) (fingerprint : String) (now : Nat)
  | echec (source : Nat) (message : String) (count now : Nat)
  | creer (source : Nat) (entry : FeedEntry) (now : Nat)
  deriving DecidableEq, Repr

def PollWrite.source : PollWrite → Nat
  | .succes source _ _ | .echec source _ _ _ | .creer source _ _ => source

namespace WatchSource

def withSuccess (fingerprint : String) (now : Nat) (source : WatchSource) : WatchSource :=
  { source with
    lastPolledAt := some now
    lastSuccessAt := some now
    lastError := ""
    consecutiveFailures := 0
    contentFingerprint := textOr fingerprint source.contentFingerprint }

def withFailure (message : String) (count now : Nat) (source : WatchSource) : WatchSource :=
  { source with
    lastPolledAt := some now
    lastError := takeChars message 300
    consecutiveFailures := count }

theorem ident_withSuccess (fingerprint : String) (now : Nat) (source : WatchSource) :
    ident (source.withSuccess fingerprint now) = ident source := rfl

theorem ident_withFailure (message : String) (count now : Nat) (source : WatchSource) :
    ident (source.withFailure message count now) = ident source := rfl

end WatchSource

namespace Watch

/-- The publication is known. -/
def connue (watch : Watch) (source : Nat) (externalId : String) : Bool :=
  watch.updates.rows.any fun row => row.source = source && row.externalId = externalId

def recordSuccess (watch : Watch) (source : Nat) (fingerprint : String) (now : Nat) : Watch :=
  { watch with
    sources := watch.sources.modify source (WatchSource.withSuccess fingerprint now)
      (WatchSource.ident_withSuccess fingerprint now) }

/-- The column of the counter refuses what is too great. -/
def recordFailure (watch : Watch) (source : Nat) (message : String) (count now : Nat) : Watch :=
  if count ≤ maxFailures then
    { watch with
      sources := watch.sources.modify source (WatchSource.withFailure message count now)
        (WatchSource.ident_withFailure message count now) }
  else watch

def suggestion (source : Nat) (entry : FeedEntry) (now key : Nat) : WatchUpdate where
  id := key
  source := source
  externalId := entry.externalId
  title := entry.title
  url := entry.url
  publishedAt := entry.publishedAt
  sourceExcerpt := entry.excerpt
  detectedAt := now
  status := .new
  kind := .unqualified
  reviewedBy := none
  reviewedAt := none
  reviewNote := ""
  targetReferential := none
  integratedMeasures := []

theorem ident_suggestion (source : Nat) (entry : FeedEntry) (now key : Nat) :
    ident (suggestion source entry now key) = key := rfl

/-- A known publication is left as it is. -/
def createUpdate (watch : Watch) (source : Nat) (entry : FeedEntry) (now : Nat) : Watch :=
  if watch.connue source entry.externalId then watch
  else
    { watch with
      updates := watch.updates.create (suggestion source entry now)
        (ident_suggestion source entry now) }

def apply (watch : Watch) : PollWrite → Watch
  | .succes source fingerprint now => watch.recordSuccess source fingerprint now
  | .echec source message count now => watch.recordFailure source message count now
  | .creer source entry now => watch.createUpdate source entry now

end Watch

/-! ## Polls -/

/-- What a guarded request ends with. -/
inductive Fetched where
  | networkError (message : String)
  | raises
  | response (status : Nat) (encoding : Option String) (content : List UInt8)

def parse (runtime : FeedRuntime) (payload : List UInt8) :
    WatchSource.Format → Except FeedFailure (List FeedEntry)
  | .atom => parseAtom runtime payload
  | _ => parseRss runtime payload

/-- What a poll has found, before it writes anything. -/
inductive Lecture where
  | sansAdresse
  | echec (message : String)
  | inattendu
  | inchangee
  | premiere (empreinte : String)
  | changee (empreinte extrait : String)
  | entrees (entries : List FeedEntry)

/-- What is read of a page that was fetched. -/
def lirePage (runtime : FeedRuntime) (source : WatchSource) (contenu : String) : Lecture :=
  let (empreinte, extrait) := pageSignature runtime contenu
  if source.contentFingerprint = empreinte then .inchangee
  else if source.contentFingerprint = "" then .premiere empreinte
  else .changee empreinte extrait

def lire (runtime : FeedRuntime) (source : WatchSource) (fetched : Fetched) : Lecture :=
  if !source.isConfigured then .sansAdresse
  else
    match fetched with
    | .networkError message => .echec message
    | .raises => .inattendu
    | .response status encoding content =>
        if 400 ≤ status then .echec ("Réponse HTTP " ++ toString status)
        else
          let octets := content.take maxFeedBytes
          if source.format = .page then
            match runtime.decode (textOr (encoding.getD "") "utf-8") octets with
            | none => .inattendu
            | some contenu => lirePage runtime source contenu
          else
            match parse runtime octets source.format with
            | .error (.illisible message) => .echec message
            | .error .autre => .inattendu
            | .ok entries => .entrees entries

/-- The poll has been answered, and the answer was read. -/
def Lecture.reussie : Lecture → Bool
  | .inchangee | .premiere _ | .changee .. | .entrees _ => true
  | _ => false

/-- The writes of a poll, in their order. -/
def plan (source : WatchSource) (now : Nat) : Lecture → List PollWrite
  | .sansAdresse | .inattendu => []
  | .echec message => [.echec source.id message (source.consecutiveFailures + 1) now]
  | .inchangee => [.succes source.id "" now]
  | .premiere empreinte => [.succes source.id empreinte now]
  | .changee empreinte extrait =>
      [.succes source.id empreinte now,
        .creer source.id
          { externalId := empreinte
            title := "Mise à jour de la page « " ++ source.name ++ " »"
            url := source.url
            publishedAt := some ⟨now, some 0⟩
            excerpt := extrait } now]
  | .entrees entries =>
      entries.map (fun entry => .creer source.id entry now) ++ [.succes source.id "" now]

structure PollReport where
  created : Nat
  seen : Nat
  changed : Bool
  deriving DecidableEq, Repr

inductive PollFailure where
  | watchError (message : String)
  | autre
  deriving DecidableEq, Repr

/-- One poll of a source, which is interrupted after some of its writes or runs to its
end. -/
structure Poll where
  source : Nat
  fetched : Fetched
  cut : Option Nat
  now : Nat

/-- The writes of the poll of a source. -/
def Poll.writes (runtime : FeedRuntime) (source : WatchSource) (poll : Poll) : List PollWrite :=
  plan source poll.now (lire runtime source poll.fetched)

/-- The poll has read an answer, and has made all its writes. -/
def Poll.reussi (runtime : FeedRuntime) (source : WatchSource) (poll : Poll) : Bool :=
  (lire runtime source poll.fetched).reussie && completes (poll.writes runtime source) poll.cut

/-- What the poll returns, from the publications that it has created. -/
def rendre (source : WatchSource) (lecture : Lecture) (complete : Bool) (created : Nat) :
    Except PollFailure PollReport :=
  match lecture with
  | .sansAdresse => .error (.watchError "Aucune adresse de flux configurée pour cette source.")
  | .inattendu => .error .autre
  | .echec message =>
      if complete && source.consecutiveFailures < maxFailures then .error (.watchError message)
      else .error .autre
  | .inchangee | .premiere _ => if complete then .ok ⟨0, 0, false⟩ else .error .autre
  | .changee .. => if complete then .ok ⟨created, 1, true⟩ else .error .autre
  | .entrees entries =>
      if complete then .ok ⟨created, entries.length, 0 < created⟩ else .error .autre

def Watch.pollSource (runtime : FeedRuntime) (watch : Watch) (source : WatchSource) (poll : Poll) :
    Watch × Except PollFailure PollReport :=
  let writes := poll.writes runtime source
  let after := carry Watch.apply writes poll.cut watch
  (after, rendre source (lire runtime source poll.fetched) (completes writes poll.cut)
    (after.updates.rows.length - watch.updates.rows.length))

/-- The report of a passage over the sources. -/
structure Rapport where
  sources : Nat
  created : Nat
  failed : List String
  deriving DecidableEq, Repr

/-- One source after the other; what one of them raises does not stop the others. -/
def pollThem (runtime : FeedRuntime) (fetched : Nat → Fetched) (cuts : Nat → Option Nat)
    (now : Nat) : List WatchSource → Watch → Watch × Rapport
  | [], watch => (watch, ⟨0, 0, []⟩)
  | source :: rest, watch =>
      let (polled, outcome) := watch.pollSource runtime source
        ⟨source.id, fetched source.id, cuts source.id, now⟩
      let (after, rapport) := pollThem runtime fetched cuts now rest polled
      match outcome with
      | .ok report =>
          (after, ⟨rapport.sources + 1, rapport.created + report.created, rapport.failed⟩)
      | .error _ => (after, ⟨rapport.sources + 1, rapport.created, source.slug :: rapport.failed⟩)

def Watch.pollAllSources (runtime : FeedRuntime) (watch : Watch) (fetched : Nat → Fetched)
    (cuts : Nat → Option Nat) (now : Nat) : Watch × Rapport :=
  pollThem runtime fetched cuts now (watch.sources.rows.filter WatchSource.isActive) watch

/-! ## Runs -/

/-- The text of a page that was fetched. -/
def texteVu (runtime : FeedRuntime) (source : WatchSource) : Fetched → Option String
  | .response _ encoding content =>
      if source.format = .page then
        (runtime.decode (textOr (encoding.getD "") "utf-8") (content.take maxFeedBytes)).map
          texteDePage
      else none
  | _ => none

/-- The tables, the text that the last successful poll of a page has read, and how many
polls of a source have failed since the last one that succeeded. -/
structure Collecte where
  watch : Watch
  contenus : Nat → Option String
  echecs : Nat → Nat

namespace Collecte

/-- No page was read, and the counters are right. -/
def start (watch : Watch) : Collecte where
  watch := watch
  contenus _ := none
  echecs key := ((watch.sources.find? key).map WatchSource.consecutiveFailures).getD 0

/-- A poll of a source; without an address there is nothing to poll. -/
def poll (runtime : FeedRuntime) (collecte : Collecte) (source : WatchSource) (poll : Poll) :
    Collecte :=
  let reussi := poll.reussi runtime source
  { watch := (collecte.watch.pollSource runtime source poll).1
    contenus :=
      if reussi then
        Function.update collecte.contenus source.id (texteVu runtime source poll.fetched)
      else collecte.contenus
    echecs :=
      if !source.isConfigured then collecte.echecs
      else
        Function.update collecte.echecs source.id
          (if reussi then 0 else collecte.echecs source.id + 1) }

def step (runtime : FeedRuntime) (collecte : Collecte) (poll : Poll) : Collecte :=
  match collecte.watch.sources.find? poll.source with
  | none => collecte
  | some source => collecte.poll runtime source poll

end Collecte

/-! ## What a poll creates fits the columns of its table -/

section Columns

variable {runtime : FeedRuntime} {source : WatchSource}

theorem parse_bounded {payload : List UInt8} {format : WatchSource.Format}
    {entries : List FeedEntry} (parsed : parse runtime payload format = .ok entries) :
    entries.length ≤ maxItemsPerPoll ∧ ∀ entry ∈ entries, entry.Fits := by
  cases format with
  | atom => exact parseAtom_bounded parsed
  | rss => exact parseRss_bounded parsed
  | page => exact parseRss_bounded parsed

/-- The columns of a source are short enough for the suggestion of its page. -/
structure WatchSource.Fits (source : WatchSource) : Prop where
  name : source.name.length ≤ 200
  url : source.url.length ≤ 200

theorem length_title_le {name : String} (short : name.length ≤ 200) :
    ("Mise à jour de la page « " ++ name ++ " »").length ≤ 500 := by
  rw [String.length_append, String.length_append]
  have opening : "Mise à jour de la page « ".length = 25 := by decide
  have closing : " »".length = 2 := by decide
  omega

/-- What a reading would create fits. -/
def Lecture.Fits : Lecture → Prop
  | .changee empreinte extrait => empreinte.length ≤ 200 ∧ extrait.length ≤ maxExcerptChars
  | .entrees entries => ∀ entry ∈ entries, entry.Fits
  | _ => True

theorem fits_lirePage (contenu : String) : (lirePage runtime source contenu).Fits := by
  rw [lirePage, pageSignature]
  dsimp only
  split
  · trivial
  · split
    · trivial
    · refine ⟨?_, length_takeChars_le _ _⟩
      rw [fingerprint, runtime.sha256_length]
      decide

theorem fits_lire (fetched : Fetched) : (lire runtime source fetched).Fits := by
  unfold lire
  split
  · trivial
  · cases fetched with
    | networkError message => trivial
    | raises => trivial
    | response status encoding content =>
        dsimp only
        split
        · trivial
        · split
          · split
            · trivial
            · exact fits_lirePage _
          · split
            · trivial
            · trivial
            · next parsed => exact (parse_bounded parsed).2

/-- Whatever is answered, what a poll creates fits. -/
theorem fits_of_mem_writes {poll : Poll} {key now : Nat} {entry : FeedEntry}
    (short : source.Fits) (planned : .creer key entry now ∈ poll.writes runtime source) :
    entry.Fits := by
  have fits : (lire runtime source poll.fetched).Fits := fits_lire poll.fetched
  rw [Poll.writes] at planned
  generalize lire runtime source poll.fetched = lecture at planned fits
  cases lecture with
  | sansAdresse => cases planned
  | inattendu => cases planned
  | echec message => cases List.mem_singleton.mp planned
  | inchangee => cases List.mem_singleton.mp planned
  | premiere empreinte => cases List.mem_singleton.mp planned
  | changee empreinte extrait =>
      rcases List.mem_pair.mp planned with same | same
      · cases same
      · cases same
        exact
          { externalId := fits.1
            title := length_title_le short.name
            url := Nat.le_trans short.url (by decide : 200 ≤ 1000)
            excerpt := fits.2 }
  | entrees entries =>
      rcases List.mem_append.mp planned with creates | last
      · obtain ⟨found, listed, same⟩ := List.mem_map.mp creates
        cases same
        exact fits _ listed
      · cases List.mem_singleton.mp last

end Columns

/-! ## What a poll leaves alone -/

section Frames

variable {runtime : FeedRuntime} {watch : Watch} {source : WatchSource} {poll : Poll}

/-- The writes of a poll are of its source. -/
theorem source_of_mem_plan {now : Nat} {lecture : Lecture} {change : PollWrite}
    (planned : change ∈ plan source now lecture) : change.source = source.id := by
  cases lecture with
  | sansAdresse => cases planned
  | inattendu => cases planned
  | echec message => rw [List.mem_singleton.mp planned, PollWrite.source]
  | inchangee => rw [List.mem_singleton.mp planned, PollWrite.source]
  | premiere empreinte => rw [List.mem_singleton.mp planned, PollWrite.source]
  | changee empreinte extrait =>
      rcases List.mem_pair.mp planned with rfl | rfl
      · rfl
      · rfl
  | entrees entries =>
      rcases List.mem_append.mp planned with creates | last
      · obtain ⟨entry, _, rfl⟩ := List.mem_map.mp creates
        rfl
      · rw [List.mem_singleton.mp last, PollWrite.source]

theorem sources_createUpdate (key : Nat) (entry : FeedEntry) (now : Nat) :
    (watch.createUpdate key entry now).sources = watch.sources := by
  rw [Watch.createUpdate]
  split
  · rfl
  · rfl

theorem find?_apply_of_ne {change : PollWrite} {other : Nat} (apart : change.source ≠ other) :
    (watch.apply change).sources.find? other = watch.sources.find? other := by
  cases change with
  | succes key fingerprint now =>
      exact Table.find?_modify_of_ne apart.symm _ (WatchSource.ident_withSuccess fingerprint now)
  | echec key message count now =>
      rw [Watch.apply, Watch.recordFailure]
      split
      · exact Table.find?_modify_of_ne apart.symm _ (WatchSource.ident_withFailure message count now)
      · rfl
  | creer key entry now => rw [Watch.apply, sources_createUpdate]

/-- A poll leaves the other sources as they are. -/
theorem find?_pollSource_of_ne {other : Nat} (apart : source.id ≠ other) :
    (watch.pollSource runtime source poll).1.sources.find? other = watch.sources.find? other := by
  change (carry Watch.apply (poll.writes runtime source) poll.cut watch).sources.find? other = _
  refine carry_invariant
    (P := fun state : Watch => state.sources.find? other = watch.sources.find? other)
    (fun state change done same => ?_) rfl
  have mine : change.source = source.id := source_of_mem_plan (mem_of_made done)
  rw [find?_apply_of_ne (mine.trans_ne apart), same]

/-- The passage over the sources is a run of polls, one of each active source. -/
theorem pollAllSources_eq_after (fetched : Nat → Fetched) (cuts : Nat → Option Nat) (now : Nat)
    (contenus : Nat → Option String) (echecs : Nat → Nat) :
    (watch.pollAllSources runtime fetched cuts now).1 =
      (after (Collecte.step runtime) ⟨watch, contenus, echecs⟩
        ((watch.sources.rows.filter WatchSource.isActive).map fun source =>
          ⟨source.id, fetched source.id, cuts source.id, now⟩)).watch := by
  have listed : ∀ source ∈ watch.sources.rows.filter WatchSource.isActive,
      watch.sources.find? source.id = some source := fun source inside =>
    Table.find?_eq_some_iff.mpr ⟨(List.mem_filter.mp inside).1, rfl⟩
  have distinct := watch.sources.increasing.sublist
    (List.filter_sublist (p := WatchSource.isActive))
  rw [Watch.pollAllSources]
  generalize watch.sources.rows.filter WatchSource.isActive = sources at listed distinct
  induction sources generalizing watch contenus echecs with
  | nil => rfl
  | cons source rest ih =>
      rw [List.pairwise_cons] at distinct
      rw [List.forall_mem_cons] at listed
      rw [pollThem, List.map_cons, after_cons, Collecte.step, listed.1]
      let poll : Poll := ⟨source.id, fetched source.id, cuts source.id, now⟩
      let polled := Collecte.poll runtime ⟨watch, contenus, echecs⟩ source poll
      have later := @ih polled.watch polled.contenus polled.echecs (fun other inside => by
          have apart : source.id ≠ other.id := Nat.ne_of_lt (distinct.1 other inside)
          exact (find?_pollSource_of_ne apart).trans (listed.2 other inside)) distinct.2
      dsimp only
      split
      · exact later
      · exact later

end Frames

/-! A page that has been read under two contents. -/

/-- The digests of the two contents. -/
def pageDigest (text : String) : String :=
  if text = "Guide A" then "5cf314f37705f0b626e36215babe7fec39ee2c8ce1f704d1ea4bfbde195c9f1f"
  else if text = "Guide B" then "e0dfe3228772a7f520ced9b3217a0484f233d4828011318809a98eec03bf3546"
  else "0000000000000000000000000000000000000000000000000000000000000000"

theorem length_pageDigest (text : String) : (pageDigest text).length = 64 := by
  rw [pageDigest]
  split
  · decide
  · split
    · decide
    · decide

/-- The libraries, as they read the answers of this page. -/
def pageRuntime : FeedRuntime where
  sha256 := pageDigest
  sha256_length := length_pageDigest
  unescape := id
  fromIsoFormat _ := none
  parseMailDate _ := .invalid
  fromString _ := .parseError "syntax error: line 1, column 0"
  decode encoding octets :=
    if encoding = "utf-8" then some (String.ofList (octets.map fun octet => Char.ofNat octet.toNat))
    else none

/-- The source of the page, when it was last polled and the content it then had. -/
def pageSource (polled : Option Nat) (stored : String) : WatchSource where
  id := 0
  slug := "anssi-publications"
  name := "Guides, recommandations et publications"
  publisher := "ANSSI"
  url := "https://cyber.gouv.fr/nous-connaitre/publications/"
  feedUrl := ""
  format := .page
  isActive := true
  lastPolledAt := polled
  lastSuccessAt := polled
  lastError := ""
  consecutiveFailures := 0
  contentFingerprint := stored

def pageWatch : Watch where
  sources := ⟨[pageSource none ""], 1, by decide, by decide⟩
  updates := .empty

/-- The page with the first or the second content. -/
def guideA : Fetched := .response 200 (some "utf-8") [71, 117, 105, 100, 101, 32, 65]

def guideB : Fetched := .response 200 (some "utf-8") [71, 117, 105, 100, 101, 32, 66]

theorem fits_of_mem_writes_page : FeedEntry.Fits
    ⟨pageDigest "Guide B", "Mise à jour de la page « " ++ (pageSource none "").name ++ " »",
      (pageSource none "").url, some ⟨200, some 0⟩, "Guide B"⟩ := by
  have planned : PollWrite.creer 0 _ 200 ∈ Poll.writes pageRuntime
      (pageSource (some 100) (pageDigest "Guide A")) ⟨0, guideB, none, 200⟩ :=
    List.mem_cons_of_mem _ List.mem_cons_self
  exact fits_of_mem_writes ⟨by decide, by decide⟩ planned

end RssiService.RegulatoryWatch
