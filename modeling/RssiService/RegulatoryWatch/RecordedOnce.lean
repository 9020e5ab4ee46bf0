import RssiService.RegulatoryWatch.Publications

/-!
# One suggestion for each publication

A poll keeps a publication under an identifier of two hundred characters, and drops what it
already has under that identifier.
-/

namespace RssiService.RegulatoryWatch

open Foundation Foundation.Interruption Python

/-! ## The condition -/

/-- Two guids begin with the same two hundred characters, or a guid begins with the digest of
a title and a link, or two digests are the same. -/
def Collide (runtime : FeedRuntime) (first second : Heading) : Prop :=
  match decide (strip first.guid = ""), decide (strip second.guid = "") with
  | false, false => takeChars (strip first.guid) 200 = takeChars (strip second.guid) 200
  | false, true =>
      takeChars (strip first.guid) 200 = runtime.sha256 (second.titre ++ "\n" ++ second.lien)
  | true, false =>
      runtime.sha256 (first.titre ++ "\n" ++ first.lien) = takeChars (strip second.guid) 200
  | true, true =>
      runtime.sha256 (first.titre ++ "\n" ++ first.lien) =
        runtime.sha256 (second.titre ++ "\n" ++ second.lien)

/-- Nothing is published, or the whole document is read, no date stops the reading and no two
publications collide. -/
def EachKept (runtime : FeedRuntime) (format : WatchSource.Format) (content : List UInt8)
    (racine : Element) : Prop :=
  let published := publications runtime format racine
  published = [] ∨
    (runtime.fromString (content.take maxFeedBytes) = .tree racine ∧
      (∀ element ∈ published, ¬DateRaises runtime (dateText format element)) ∧
      (published.map (heading runtime format)).Pairwise fun first second =>
        ¬Collide runtime first second)

/-! ## What a poll records -/

def firstPoll (source : WatchSource) (status : Nat) (encoding : Option String)
    (content : List UInt8) (now : Nat) : Poll :=
  ⟨source.id, .response status encoding content, none, now⟩

/-- The first poll records one publication for each entry, in their order, and a later poll of
a revised document none. -/
structure RecordsEach (runtime : FeedRuntime) (watch : Watch) (source : WatchSource) (poll : Poll)
    (racine : Element) : Prop where
  each : ∃ recorded,
    (watch.pollSource runtime source poll).1.updates.rows = watch.updates.rows ++ recorded ∧
    recorded.map (fun row => (row.source, row.title, row.url)) =
      (publications runtime source.format racine).map fun element =>
        (source.id, takeChars (heading runtime source.format element).titre 500,
          takeChars (heading runtime source.format element).lien 1000)
  again : ∀ revised content, runtime.fromString content = .tree revised →
    Revises runtime source.format racine revised → ∀ status encoding cut now stored,
    (watch.pollSource runtime source poll).1.sources.find? source.id = some stored →
    ((watch.pollSource runtime source poll).1.pollSource runtime stored
      ⟨source.id, .response status encoding content, cut, now⟩).1.updates =
        (watch.pollSource runtime source poll).1.updates

/-- A source that has a feed and nothing recorded yet, and the document of the feed. -/
structure NewFeed (runtime : FeedRuntime) (watch : Watch) (source : WatchSource)
    (content : List UInt8) (racine : Element) : Prop where
  listed : source ∈ watch.sources
  feed : source.format ≠ .page
  address : source.feedUrl ≠ ""
  fresh : ∀ update ∈ watch.updates, update.source ≠ source.id
  wellFormed : runtime.fromString content = .tree racine
  few : (publications runtime source.format racine).length ≤ maxItemsPerPoll

/-- The beginning of a well-formed document is well formed only with the whole of its tree. -/
def WholeTrees (runtime : FeedRuntime) : Prop :=
  ∀ content count racine part, runtime.fromString content = .tree racine →
    runtime.fromString (content.take count) = .tree part → part = racine

/-! ## Identifiers -/

section Identifiers

variable {runtime : FeedRuntime} {first second : Heading}

theorem identifier_eq_iff :
    first.identifier runtime = second.identifier runtime ↔ Collide runtime first second := by
  rw [Heading.identifier, Heading.identifier, identifiant, identifiant, Collide]
  by_cases bare : strip first.guid = "" <;> by_cases other : strip second.guid = "" <;>
    simp only [bare, other, if_true, if_false, decide_true, decide_false] <;> rfl

theorem collide_of_guids (named : strip first.guid ≠ "") (other : strip second.guid ≠ "") :
    Collide runtime first second ↔
      takeChars (strip first.guid) 200 = takeChars (strip second.guid) 200 := by
  rw [Collide, decide_eq_false named, decide_eq_false other]

/-- What is known alike is kept alike. -/
theorem identifier_eq_of_key (same : first.key = second.key) :
    first.identifier runtime = second.identifier runtime := by
  rw [Heading.key, Heading.key] at same
  rw [Heading.identifier, Heading.identifier, identifiant, identifiant]
  split at same
  · split at same
    · rename_i bare other
      obtain ⟨titre, lien⟩ := Key.pair.inj same
      rw [if_pos bare, if_pos other, titre, lien]
    · cases same
  · split at same
    · cases same
    · rename_i named other
      rw [if_neg named, if_neg other, Key.guid.inj same]

theorem nodup_identifiers_iff {headings : List Heading} :
    (headings.map (Heading.identifier runtime)).Nodup ↔
      headings.Pairwise fun first second => ¬Collide runtime first second := by
  rw [List.Nodup, List.pairwise_map]
  exact List.Pairwise.iff fun _ _ => not_congr identifier_eq_iff

end Identifiers

/-! ## Recording the entries -/

section Recording

variable (watch : Watch) {source now : Nat} {entries : List FeedEntry}

def Watch.creerToutes (watch : Watch) (source : Nat) (entries : List FeedEntry) (now : Nat) :
    Watch :=
  entries.foldl (fun watch entry => watch.createUpdate source entry now) watch

theorem connue_iff {externalId : String} :
    watch.connue source externalId = true ↔
      ∃ row ∈ watch.updates.rows, row.source = source ∧ row.externalId = externalId := by
  simp only [Watch.connue, List.any_eq_true, Bool.and_eq_true, decide_eq_true_eq]

theorem connue_createUpdate (entry : FeedEntry) {externalId : String} :
    (watch.createUpdate source entry now).connue source externalId = true ↔
      watch.connue source externalId = true ∨ externalId = entry.externalId := by
  rw [Watch.createUpdate]
  split
  · rename_i known
    refine (or_iff_left_of_imp ?_).symm
    rintro rfl
    exact known
  · simp only [connue_iff, Table.create, List.mem_append, List.mem_singleton]
    constructor
    · rintro ⟨row, old | rfl, mine, same⟩
      · exact .inl ⟨row, old, mine, same⟩
      · exact .inr same.symm
    · rintro (⟨row, old, mine, same⟩ | rfl)
      · exact ⟨row, .inl old, mine, same⟩
      · exact ⟨_, .inr rfl, rfl, rfl⟩

theorem connue_creerToutes {externalId : String} :
    (watch.creerToutes source entries now).connue source externalId = true ↔
      watch.connue source externalId = true ∨ externalId ∈ entries.map FeedEntry.externalId := by
  induction entries generalizing watch with
  | nil => exact (or_iff_left List.not_mem_nil).symm
  | cons entry rest ih =>
      have later := ih (watch.createUpdate source entry now)
      rw [connue_createUpdate, or_assoc] at later
      rw [List.map_cons, List.mem_cons]
      exact later

/-- Each entry is recorded where they are new, under identifiers of their own. -/
theorem creerToutes_of_nodup (source now : Nat)
    (distinct : (entries.map FeedEntry.externalId).Nodup)
    (fresh : ∀ entry ∈ entries, watch.connue source entry.externalId = false) :
    ∃ recorded, (watch.creerToutes source entries now).updates.rows =
        watch.updates.rows ++ recorded ∧
      recorded.map (fun row => (row.source, row.title, row.url)) =
        entries.map fun entry => (source, entry.title, entry.url) := by
  induction entries generalizing watch with
  | nil => exact ⟨[], (List.append_nil _).symm, rfl⟩
  | cons entry rest ih =>
      rw [List.map_cons, List.nodup_cons] at distinct
      rw [List.forall_mem_cons] at fresh
      have created : (watch.createUpdate source entry now).updates.rows =
          watch.updates.rows ++ [Watch.suggestion source entry now watch.updates.next] := by
        rw [Watch.createUpdate, fresh.1]
        rfl
      have apart : ∀ other ∈ rest,
          (watch.createUpdate source entry now).connue source other.externalId = false := by
        intro other listed
        rw [Bool.eq_false_iff, Ne, connue_createUpdate, not_or, Bool.not_eq_true]
        refine ⟨fresh.2 other listed, fun alike => distinct.1 ?_⟩
        exact List.mem_map.mpr ⟨other, listed, alike⟩
      obtain ⟨recorded, rows, same⟩ := ih (watch.createUpdate source entry now) distinct.2 apart
      refine ⟨Watch.suggestion source entry now watch.updates.next :: recorded, ?_, ?_⟩
      · rw [created, List.append_assoc] at rows
        exact rows
      · exact congrArg₂ List.cons rfl same

theorem rows_createUpdate (source now : Nat) (entry : FeedEntry) :
    (watch.createUpdate source entry now).updates.rows.length =
      watch.updates.rows.length +
        if watch.connue source entry.externalId = true then 0 else 1 := by
  rw [Watch.createUpdate]
  split
  · rfl
  · exact List.length_append

theorem length_creerToutes_le (source now : Nat) (entries : List FeedEntry) :
    (watch.creerToutes source entries now).updates.rows.length ≤
      watch.updates.rows.length + entries.length := by
  induction entries generalizing watch with
  | nil => exact Nat.le_refl _
  | cons entry rest ih =>
      have later := ih (watch.createUpdate source entry now)
      have here := rows_createUpdate watch source now entry
      have bound : (if watch.connue source entry.externalId = true then 0 else 1) ≤ 1 := by
        split <;> decide
      rw [List.length_cons]
      change ((watch.createUpdate source entry now).creerToutes source rest
        now).updates.rows.length ≤ _
      omega

/-- Where as many rows are recorded as there are entries, the identifiers are distinct. -/
theorem nodup_of_length (all : watch.updates.rows.length + entries.length ≤
      (watch.creerToutes source entries now).updates.rows.length) :
    (entries.map FeedEntry.externalId).Nodup ∧
      ∀ entry ∈ entries, watch.connue source entry.externalId = false := by
  induction entries generalizing watch with
  | nil => exact ⟨List.nodup_nil, by rintro _ ⟨⟩⟩
  | cons entry rest ih =>
      have here := rows_createUpdate watch source now entry
      have bound := length_creerToutes_le (watch.createUpdate source entry now) source now rest
      change _ ≤ ((watch.createUpdate source entry now).creerToutes source rest
        now).updates.rows.length at all
      rw [List.length_cons] at all
      by_cases known : watch.connue source entry.externalId = true
      · rw [if_pos known] at here
        omega
      · rw [if_neg known] at here
        obtain ⟨distinct, fresh⟩ := ih (watch.createUpdate source entry now) (by omega)
        have apart : ∀ other ∈ rest, watch.connue source other.externalId = false ∧
            other.externalId ≠ entry.externalId := by
          intro other listed
          have unknown := fresh other listed
          rw [Bool.eq_false_iff, Ne, connue_createUpdate, not_or, Bool.not_eq_true] at unknown
          exact unknown
        rw [List.map_cons, List.nodup_cons, List.forall_mem_cons]
        refine ⟨⟨?_, distinct⟩, Bool.eq_false_iff.mpr known, fun other listed =>
          (apart other listed).1⟩
        intro again
        obtain ⟨other, listed, alike⟩ := List.mem_map.mp again
        exact (apart other listed).2 alike

end Recording

/-! ## Polls of a feed -/

section Polls

variable {runtime : FeedRuntime} {watch : Watch} {source : WatchSource} {racine : Element}
  {content : List UInt8} {status now : Nat} {encoding : Option String} {poll : Poll}

theorem lire_feed (feed : source.format ≠ .page) (address : source.feedUrl ≠ "")
    (answered : status < 400) :
    lire runtime source (.response status encoding content) =
      match parse runtime (content.take maxFeedBytes) source.format with
      | .error (.illisible message) => .echec message
      | .error .autre => .inattendu
      | .ok entries => .entrees entries := by
  have configured : source.isConfigured = true := by
    rw [WatchSource.isConfigured, decide_eq_true address, Bool.or_true]
  rw [lire, configured]
  refine (if_neg Bool.false_ne_true).trans ((if_neg (Nat.not_le.mpr answered)).trans ?_)
  exact if_neg feed

/-- What a poll of a feed creates was read in the document. -/
theorem parsed_of_mem_writes (feed : source.format ≠ .page) {key moment : Nat} {entry : FeedEntry}
    (planned : .creer key entry moment ∈ poll.writes runtime source) :
    key = source.id ∧ ∃ status encoding content entries,
      poll.fetched = .response status encoding content ∧
      parse runtime (content.take maxFeedBytes) source.format = .ok entries ∧ entry ∈ entries := by
  have mine : key = source.id := source_of_mem_plan planned
  refine ⟨mine, ?_⟩
  rw [Poll.writes] at planned
  unfold lire at planned
  split at planned
  · cases planned
  cases answer : poll.fetched with
  | networkError message =>
      rw [answer] at planned
      cases List.mem_singleton.mp planned
  | raises =>
      rw [answer] at planned
      cases planned
  | response status encoding content =>
      rw [answer] at planned
      dsimp only at planned
      split at planned
      · cases List.mem_singleton.mp planned
      cases read : parse runtime (content.take maxFeedBytes) source.format with
      | error failure =>
          rw [read] at planned
          cases failure with
          | illisible message => cases List.mem_singleton.mp planned
          | autre => cases planned
      | ok entries =>
          rw [read] at planned
          refine ⟨status, encoding, content, entries, rfl, read, ?_⟩
          rcases List.mem_append.mp planned with creates | last
          · obtain ⟨other, listed, same⟩ := List.mem_map.mp creates
            cases same
            exact listed
          · cases List.mem_singleton.mp last

/-- A poll that finds only what is known records nothing. -/
theorem updates_pollSource_of_known
    (known : ∀ key entry moment, .creer key entry moment ∈ poll.writes runtime source →
      watch.connue key entry.externalId = true) :
    (watch.pollSource runtime source poll).1.updates = watch.updates := by
  change (carry Watch.apply (poll.writes runtime source) poll.cut watch).updates = _
  refine carry_invariant (P := fun state : Watch => state.updates = watch.updates)
    (fun state change done same => ?_) rfl
  cases change with
  | succes key fingerprint moment => exact same
  | echec key message count moment =>
      rw [Watch.apply, Watch.recordFailure]
      split
      · exact same
      · exact same
  | creer key entry moment =>
      have there : state.connue key entry.externalId = true := by
        rw [Watch.connue, same]
        exact known key entry moment (mem_of_made done)
      rw [Watch.apply, Watch.createUpdate, if_pos there]
      exact same

theorem updates_pollSource_of_entries {entries : List FeedEntry}
    (read : lire runtime source (.response status encoding content) = .entrees entries) :
    (watch.pollSource runtime source (firstPoll source status encoding content now)).1.updates =
      (watch.creerToutes source.id entries now).updates := by
  change (carry Watch.apply (plan source now (lire runtime source _)) none watch).updates = _
  rw [firstPoll]
  dsimp only
  rw [read, plan, carry, made, List.foldl_append, List.foldl_map]
  rfl

/-- A write keeps the format of the sources. -/
theorem format_apply {state : Watch} {change : PollWrite} {key : Nat} {stored : WatchSource}
    (found : (state.apply change).sources.find? key = some stored) :
    ∃ before, state.sources.find? key = some before ∧ stored.format = before.format := by
  have modified {id : Nat} (update : WatchSource → WatchSource)
      (keeps : ∀ row, ident (update row) = ident row)
      (same : ∀ row, (update row).format = row.format)
      (moved : (state.sources.modify id update keeps).find? key = some stored) :
      ∃ before, state.sources.find? key = some before ∧ stored.format = before.format := by
    rw [Table.find?_modify] at moved
    obtain ⟨before, there, rfl⟩ := Option.map_eq_some_iff.mp moved
    refine ⟨before, there, ?_⟩
    split
    · exact same before
    · rfl
  cases change with
  | succes id fingerprint moment =>
      exact modified (.withSuccess fingerprint moment) (fun _ => rfl) (fun _ => rfl) found
  | echec id message count moment =>
      rw [Watch.apply, Watch.recordFailure] at found
      split at found
      · exact modified (.withFailure message count moment) (fun _ => rfl) (fun _ => rfl) found
      · exact ⟨stored, found, rfl⟩
  | creer id entry moment =>
      rw [Watch.apply, sources_createUpdate] at found
      exact ⟨stored, found, rfl⟩

theorem format_pollSource {stored : WatchSource} (listed : source ∈ watch.sources)
    (found : (watch.pollSource runtime source poll).1.sources.find? source.id = some stored) :
    stored.format = source.format := by
  have kept : ∀ stored, (carry Watch.apply (poll.writes runtime source) poll.cut
      watch).sources.find? source.id = some stored → stored.format = source.format := by
    refine carry_invariant (P := fun state : Watch => ∀ stored,
      state.sources.find? source.id = some stored → stored.format = source.format)
      (fun state change _ same stored moved => ?_) (fun stored present => ?_)
    · obtain ⟨before, there, alike⟩ := format_apply moved
      exact alike.trans (same before there)
    · cases (Table.find?_eq_some_iff.mpr ⟨listed, rfl⟩).symm.trans present
      rfl
  exact kept stored found

/-- A publication of a document that was read. -/
theorem exists_of_mem_entries {format : WatchSource.Format} {payload : List UInt8}
    {entries : List FeedEntry} {entry : FeedEntry}
    (wellFormed : runtime.fromString payload = .tree racine)
    (parsed : parse runtime payload format = .ok entries) (listed : entry ∈ entries) :
    ∃ element ∈ publications runtime format racine,
      entry.externalId = (heading runtime format element).identifier runtime := by
  by_cases fine : ∀ element ∈ publications runtime format racine,
      ¬DateRaises runtime (dateText format element)
  · obtain ⟨read, same, keeps⟩ := parse_of_tree wellFormed fine
    cases same.symm.trans parsed
    have shown := List.mem_map_of_mem (f := kept) (List.mem_of_mem_take listed)
    rw [keeps] at shown
    obtain ⟨element, inside, alike⟩ := List.mem_map.mp shown
    refine ⟨element, inside, ?_⟩
    rw [← fst_kept, ← alike, fst_expected]
  · push Not at fine
    obtain ⟨element, inside, raises⟩ := fine
    cases (parse_of_raises wellFormed inside raises).symm.trans parsed

theorem tree_of_parse {format : WatchSource.Format} {payload : List UInt8}
    {entries : List FeedEntry} (parsed : parse runtime payload format = .ok entries) :
    ∃ part, runtime.fromString payload = .tree part := by
  rw [parse_eq, parseEntries] at parsed
  split at parsed
  · cases parsed
  · cases parsed
  · rename_i part wellFormed
    exact ⟨part, wellFormed⟩

theorem identifiers_of_kept {format : WatchSource.Format} {entries : List FeedEntry}
    (keeps : entries.map kept = (publications runtime format racine).map fun element =>
      expected runtime (heading runtime format element)) :
    entries.map FeedEntry.externalId =
      ((publications runtime format racine).map (heading runtime format)).map
        (Heading.identifier runtime) := by
  have ids := congrArg (List.map Prod.fst) keeps
  simp only [List.map_map, Function.comp_def, fst_kept, fst_expected] at ids ⊢
  exact ids

/-- The whole document is read. -/
theorem NewFeed.reads (new : NewFeed runtime watch source content racine)
    (encoding : Option String)
    (whole : runtime.fromString (content.take maxFeedBytes) = .tree racine)
    (fine : ∀ element ∈ publications runtime source.format racine,
      ¬DateRaises runtime (dateText source.format element)) (answered : status < 400) :
    ∃ entries, lire runtime source (.response status encoding content) = .entrees entries ∧
      entries.map kept = (publications runtime source.format racine).map fun element =>
        expected runtime (heading runtime source.format element) := by
  obtain ⟨entries, parsed, keeps⟩ := parse_of_tree whole fine
  have count : entries.length = (publications runtime source.format racine).length := by
    have lengths := congrArg List.length keeps
    rwa [List.length_map, List.length_map] at lengths
  have all : entries.take maxItemsPerPoll = entries :=
    List.take_of_length_le (count.trans_le new.few)
  rw [all] at parsed
  refine ⟨entries, ?_, keeps⟩
  rw [lire_feed new.feed new.address answered, parsed]

theorem NewFeed.unknown (new : NewFeed runtime watch source content racine) (externalId : String) :
    watch.connue source.id externalId = false := by
  rw [Bool.eq_false_iff, Ne, connue_iff]
  rintro ⟨row, there, mine, _⟩
  exact new.fresh row there mine

/-- Of a document that is read, each publication is recorded where the identifiers differ. -/
theorem NewFeed.each_iff_of_readable (new : NewFeed runtime watch source content racine)
    (whole : runtime.fromString (content.take maxFeedBytes) = .tree racine)
    (dated : ∀ element ∈ publications runtime source.format racine,
      ¬DateRaises runtime (dateText source.format element)) (answered : status < 400) :
    (∃ recorded,
      (watch.pollSource runtime source (firstPoll source status encoding content now)).1.updates.rows
        = watch.updates.rows ++ recorded ∧
      recorded.map (fun row => (row.source, row.title, row.url)) =
        (publications runtime source.format racine).map fun element =>
          (source.id, takeChars (heading runtime source.format element).titre 500,
            takeChars (heading runtime source.format element).lien 1000)) ↔
      EachKept runtime source.format content racine := by
  obtain ⟨entries, read, keeps⟩ := new.reads encoding whole dated answered
  have shown := congrArg (List.map fun values => (source.id, values.2)) keeps
  rw [List.map_map, List.map_map] at shown
  have condition : EachKept runtime source.format content racine ↔
      (entries.map FeedEntry.externalId).Nodup := by
    rw [identifiers_of_kept keeps, nodup_identifiers_iff, EachKept]
    constructor
    · rintro (bare | ⟨_, _, apart⟩)
      · rw [bare]
        exact .nil
      · exact apart
    · exact fun apart => .inr ⟨whole, dated, apart⟩
  rw [condition, updates_pollSource_of_entries read]
  constructor
  · rintro ⟨recorded, rows, same⟩
    have lengths := congrArg List.length (same.trans shown.symm)
    rw [List.length_map, List.length_map] at lengths
    have all : watch.updates.rows.length + entries.length ≤
        (watch.creerToutes source.id entries now).updates.rows.length :=
      Nat.le_of_eq (by rw [rows, List.length_append, lengths])
    exact (nodup_of_length watch all).1
  · intro distinct
    obtain ⟨recorded, rows, same⟩ := creerToutes_of_nodup watch source.id now distinct
      fun entry _ => new.unknown entry.externalId
    exact ⟨recorded, rows, same.trans shown⟩

/-- Of a document that is not read as a whole, nothing is recorded. -/
theorem NewFeed.nothing_of_unreadable (new : NewFeed runtime watch source content racine)
    (wholeTrees : WholeTrees runtime)
    (unreadable : ¬(runtime.fromString (content.take maxFeedBytes) = .tree racine ∧
      ∀ element ∈ publications runtime source.format racine,
        ¬DateRaises runtime (dateText source.format element))) :
    (watch.pollSource runtime source (firstPoll source status encoding content now)).1.updates =
      watch.updates := by
  refine updates_pollSource_of_known fun key entry moment planned => absurd ?_ unreadable
  obtain ⟨_, _, _, _, entries, ⟨⟩, parsed, _⟩ := parsed_of_mem_writes new.feed planned
  obtain ⟨part, whole⟩ := tree_of_parse parsed
  cases wholeTrees content maxFeedBytes racine part new.wellFormed whole
  refine ⟨whole, fun element inside raises => ?_⟩
  cases (parse_of_raises whole inside raises).symm.trans parsed

/-- What the first poll records is what is published, exactly where everything is kept. -/
theorem NewFeed.each_iff (new : NewFeed runtime watch source content racine)
    (wholeTrees : WholeTrees runtime) (answered : status < 400) :
    (∃ recorded,
      (watch.pollSource runtime source (firstPoll source status encoding content now)).1.updates.rows
        = watch.updates.rows ++ recorded ∧
      recorded.map (fun row => (row.source, row.title, row.url)) =
        (publications runtime source.format racine).map fun element =>
          (source.id, takeChars (heading runtime source.format element).titre 500,
            takeChars (heading runtime source.format element).lien 1000)) ↔
      EachKept runtime source.format content racine := by
  by_cases readable : runtime.fromString (content.take maxFeedBytes) = .tree racine ∧
      ∀ element ∈ publications runtime source.format racine,
        ¬DateRaises runtime (dateText source.format element)
  · exact new.each_iff_of_readable readable.1 readable.2 answered
  · rw [new.nothing_of_unreadable wholeTrees readable]
    constructor
    · rintro ⟨recorded, rows, same⟩
      have empty : recorded = [] := List.self_eq_append_right.mp rows
      rw [empty] at same
      exact .inl (List.map_eq_nil_iff.mp same.symm)
    · rintro (bare | ⟨whole, fine, _⟩)
      · refine ⟨[], (List.append_nil _).symm, ?_⟩
        rw [bare]
        rfl
      · exact absurd ⟨whole, fine⟩ readable

end Polls

/-- The polls of a feed record each publication once exactly where nothing is published, or the
whole document is read, no date stops the reading and no two publications collide. -/
theorem records_each_iff {runtime : FeedRuntime} {watch : Watch} {source : WatchSource}
    {content : List UInt8} {racine : Element} (new : NewFeed runtime watch source content racine)
    (wholeTrees : WholeTrees runtime) {status : Nat} (answered : status < 400)
    (encoding : Option String) (now : Nat) :
    RecordsEach runtime watch source (firstPoll source status encoding content now) racine ↔
      EachKept runtime source.format content racine := by
  refine ⟨fun records => (new.each_iff wholeTrees answered).mp records.each, fun each =>
    ⟨(new.each_iff wholeTrees answered).mpr each, ?_⟩⟩
  intro revised later wellFormed revises status' encoding' cut moment stored found
  have format : stored.format = source.format := format_pollSource new.listed found
  have same : stored.id = source.id := Table.ident_of_find? found
  refine updates_pollSource_of_known fun key entry instant planned => ?_
  obtain ⟨rfl, _, _, _, entries, ⟨⟩, parsed, listed⟩ :=
    parsed_of_mem_writes (format ▸ new.feed) planned
  obtain ⟨part, whole⟩ := tree_of_parse parsed
  cases wholeTrees later maxFeedBytes revised part wellFormed whole
  obtain ⟨element, inside, identifier⟩ := exists_of_mem_entries whole parsed listed
  rw [format] at inside identifier
  obtain ⟨earlier, published, alike⟩ := revises element inside
  rcases each with bare | ⟨read, fine, _⟩
  · rw [bare] at published
    cases published
  obtain ⟨recorded, lecture, keeps⟩ := new.reads encoding read fine answered
  rw [same, Watch.connue, updates_pollSource_of_entries lecture]
  refine (connue_creerToutes watch).mpr (.inr ?_)
  rw [identifiers_of_kept keeps, identifier, identifier_eq_of_key alike]
  exact List.mem_map_of_mem (List.mem_map_of_mem published)

/-! A feed of two guides, by their guids and titles. -/

def guideItem (guide : String × String) : Element :=
  .mk "item" [] "" [.mk "guid" [] guide.1 [] "", .mk "title" [] guide.2 [] ""] ""

def guideFeed (guides : List (String × String)) : Element :=
  .mk "rss" [] "" [.mk "channel" [] "" (guides.map guideItem) ""] ""

def guideText (guides : List (String × String)) : String :=
  "<rss><channel>" ++ String.join (guides.map fun guide =>
    "<item><guid>" ++ guide.1 ++ "</guid><title>" ++ guide.2 ++ "</title></item>") ++
    "</channel></rss>"

def guideOctets (guides : List (String × String)) : List UInt8 :=
  (guideText guides).toList.map fun symbol => UInt8.ofNat symbol.toNat

/-- The libraries, as they read this feed. -/
def guideRuntime (guides : List (String × String)) : FeedRuntime where
  sha256 := pageDigest
  sha256_length := length_pageDigest
  unescape := id
  fromIsoFormat _ := none
  parseMailDate _ := .invalid
  fromString octets :=
    if octets = guideOctets guides then .tree (guideFeed guides)
    else .parseError "no element found: line 1, column 0"
  decode _ _ := none

theorem wholeTrees_guideRuntime (guides : List (String × String)) :
    WholeTrees (guideRuntime guides) := by
  intro content count racine part whole beginning
  have tree {octets : List UInt8} {root : Element}
      (read : (guideRuntime guides).fromString octets = .tree root) : guideFeed guides = root := by
    change (if octets = guideOctets guides then XmlDocument.tree (guideFeed guides) else _) = _
      at read
    split at read
    · cases read
      rfl
    · cases read
  exact (tree beginning).symm.trans (tree whole)

def guideSource : WatchSource where
  id := 0
  slug := "guides"
  name := "Guides"
  publisher := "ANSSI"
  url := "https://cyber.gouv.fr"
  feedUrl := "https://cyber.gouv.fr/rss"
  format := .rss
  isActive := true
  lastPolledAt := none
  lastSuccessAt := none
  lastError := ""
  consecutiveFailures := 0
  contentFingerprint := ""

def guideWatch : Watch where
  sources := ⟨[guideSource], 1, List.pairwise_singleton _ _, by simp [ident, guideSource]⟩
  updates := .empty

theorem newFeed_guides (guides : List (String × String))
    (few : (publications (guideRuntime guides) .rss (guideFeed guides)).length ≤ maxItemsPerPoll) :
    NewFeed (guideRuntime guides) guideWatch guideSource (guideOctets guides)
      (guideFeed guides) where
  listed := List.mem_singleton_self guideSource
  feed := by decide
  address := by decide
  fresh := fun _ absent => absurd absent (Table.not_mem_empty _)
  wellFormed := if_pos rfl
  few := few

theorem iter_guideFeed (guides : List (String × String)) :
    (guideFeed guides).iter "item" = guides.map guideItem := by
  have items : Element.iters "item" (guides.map guideItem) = guides.map guideItem := by
    induction guides with
    | nil => rfl
    | cons guide rest ih =>
        have here : Element.iter "item" (guideItem guide) = [guideItem guide] := rfl
        rw [List.map_cons, Element.iters, ih, here]
        rfl
  have feed : (guideFeed guides).iter "item" =
      [] ++ (([] ++ Element.iters "item" (guides.map guideItem)) ++ []) := rfl
  rw [feed, items, List.append_nil]
  rfl

/-- The text of a title without markup. -/
def guideTitle (titre : String) : String :=
  texte (guideRuntime []) (some (.mk "title" [] titre [] ""))

theorem heading_guideItem (guides : List (String × String)) (guid titre : String) :
    heading (guideRuntime guides) .rss (guideItem (guid, titre)) =
      { guid, titre := guideTitle titre, lien := strip "" } := by
  rw [heading]
  rfl

theorem publications_guideFeed {guides : List (String × String)}
    (titled : ∀ guide ∈ guides, guideTitle guide.2 ≠ "") :
    publications (guideRuntime guides) .rss (guideFeed guides) = guides.map guideItem := by
  have all : (guideFeed guides).iter (entryTag .rss) = guides.map guideItem := iter_guideFeed guides
  rw [publications, all, List.filter_eq_self]
  intro element listed
  obtain ⟨⟨guid, titre⟩, inside, rfl⟩ := List.mem_map.mp listed
  rw [heading_guideItem, Heading.isPublished, decide_eq_true (titled _ inside), Bool.true_or]

def twoGuides : List (String × String) := [("guide-1", "Postes"), ("guide-2", "Serveurs")]

theorem titled_twoGuides : ∀ guide ∈ twoGuides, guideTitle guide.2 ≠ "" := by decide +kernel

theorem records_each_of_two_guides :
    RecordsEach (guideRuntime twoGuides) guideWatch guideSource
      (firstPoll guideSource 200 none (guideOctets twoGuides) 100) (guideFeed twoGuides) := by
  have published := publications_guideFeed titled_twoGuides
  have new := newFeed_guides twoGuides (by rw [published]; decide)
  refine (records_each_iff new (wholeTrees_guideRuntime twoGuides) (by decide) none 100).mpr
    (.inr ⟨?_, ?_, ?_⟩)
  · have short : (guideOctets twoGuides).length ≤ maxFeedBytes := by decide +kernel
    rw [List.take_of_length_le short]
    exact new.wellFormed
  · intro element listed raises
    have listed : element ∈ twoGuides.map guideItem := published ▸ listed
    obtain ⟨guide, _, rfl⟩ := List.mem_map.mp listed
    have undated : strip (dateText .rss (guideItem guide)) = "" := by
      change strip (textOr "" "") = ""
      decide +kernel
    exact raises.1 undated
  · have listed : publications (guideRuntime twoGuides) guideSource.format (guideFeed twoGuides) =
        twoGuides.map guideItem := published
    rw [listed]
    refine List.pairwise_pair.mpr ?_
    change ¬Collide (guideRuntime twoGuides) (heading _ .rss (guideItem _))
      (heading _ .rss (guideItem _))
    rw [heading_guideItem, heading_guideItem]
    have first : strip "guide-1" = "guide-1" := by decide +kernel
    have second : strip "guide-2" = "guide-2" := by decide +kernel
    rw [collide_of_guids (by rw [first]; decide) (by rw [second]; decide), first, second]
    decide +kernel

/-- A guid of two hundred and one characters. -/
def longGuid (last : Char) : String := String.ofList (List.replicate 200 'a' ++ [last])

/-- Two guids of which the first two hundred characters are the same. -/
def longGuids : List (String × String) :=
  [(longGuid '1', "Postes"), (longGuid '2', "Serveurs")]

theorem titled_longGuids : ∀ guide ∈ longGuids, guideTitle guide.2 ≠ "" := by
  rintro guide listed
  rcases List.mem_pair.mp listed with rfl | rfl
  · decide +kernel
  · decide +kernel

theorem toList_longGuid (last : Char) : (longGuid last).toList = List.replicate 200 'a' ++ [last] :=
  String.toList_ofList

theorem takeChars_longGuid (last : Char) :
    takeChars (longGuid last) 200 = String.ofList (List.replicate 200 'a') := by
  have length : (List.replicate 200 'a').length = 200 := List.length_replicate
  rw [takeChars, toList_longGuid, List.take_append_of_le_length (Nat.le_of_eq length.symm),
    List.take_of_length_le (Nat.le_of_eq length)]

theorem strip_longGuid {last : Char} (inked : last ∈ ['1', '2']) :
    strip (longGuid last) = longGuid last := by
  rcases List.mem_pair.mp inked with rfl | rfl
  · exact strip_ofList (by decide +kernel)
  · exact strip_ofList (by decide +kernel)

theorem strip_longGuid_ne {last : Char} (inked : last ∈ ['1', '2']) :
    strip (longGuid last) ≠ "" := by
  rw [strip_longGuid inked]
  intro blank
  have texts := congrArg String.toList blank
  rw [toList_longGuid] at texts
  exact List.append_ne_nil_of_right_ne_nil _ (List.cons_ne_nil _ _) texts

theorem long_guids_lose_a_publication :
    NewFeed (guideRuntime longGuids) guideWatch guideSource (guideOctets longGuids)
        (guideFeed longGuids) ∧
      ((publications (guideRuntime longGuids) .rss (guideFeed longGuids)).map fun element =>
          (heading (guideRuntime longGuids) .rss element).key).Nodup ∧
      ¬RecordsEach (guideRuntime longGuids) guideWatch guideSource
        (firstPoll guideSource 200 none (guideOctets longGuids) 100) (guideFeed longGuids) := by
  have published : publications (guideRuntime longGuids) .rss (guideFeed longGuids) =
      [guideItem (longGuid '1', "Postes"), guideItem (longGuid '2', "Serveurs")] :=
    publications_guideFeed titled_longGuids
  have first := strip_longGuid_ne (List.mem_cons_self : '1' ∈ ['1', '2'])
  have second := strip_longGuid_ne (List.mem_cons_of_mem '1' List.mem_cons_self : '2' ∈ ['1', '2'])
  have new := newFeed_guides longGuids (by rw [published]; exact (by decide : 2 ≤ 50))
  refine ⟨new, ?_, fun records => ?_⟩
  · rw [published, List.map_cons, List.map_cons, List.map_nil, heading_guideItem,
      heading_guideItem, Heading.key, Heading.key, if_neg first, if_neg second]
    refine List.pairwise_pair.mpr fun same => ?_
    have texts := congrArg String.toList (Key.guid.inj same)
    rw [toList_longGuid, toList_longGuid] at texts
    cases List.append_cancel_left texts
  · have format : guideSource.format = .rss := rfl
    have answered : 200 < 400 := by decide
    have kept := (new.each_iff (wholeTrees_guideRuntime longGuids) answered).mp records.each
    rw [EachKept, format, published] at kept
    rcases kept with bare | ⟨_, _, apart⟩
    · cases bare
    · rw [List.map_cons, List.map_cons, List.map_nil, heading_guideItem, heading_guideItem,
        List.pairwise_pair] at apart
      refine absurd ((collide_of_guids ?_ ?_).mpr ?_) apart
      · exact first
      · exact second
      · dsimp only
        rw [strip_longGuid List.mem_cons_self,
          strip_longGuid (List.mem_cons_of_mem _ List.mem_cons_self), takeChars_longGuid,
          takeChars_longGuid]

end RssiService.RegulatoryWatch
