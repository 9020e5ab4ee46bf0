import RssiService.Assessments.Catalogue
import RssiService.Foundation.Interleaving
import RssiService.RegulatoryWatch.Sources

/-!
# Reviews

A reviewer decides about a publication, or makes a measure of it.  A request looks at the
publication when it loads it, and its write comes later.
-/

namespace RssiService.RegulatoryWatch

open Foundation Foundation.Run Foundation.Interleaving Python

/-! ## Decisions -/

/-- The sources with their publications, and the catalogue of the referentials. -/
structure Console where
  watch : Watch
  catalogue : Assessments.Database

inductive ReviewFailure where
  | notFound (message : String)
  | validation (message : String)
  | reviewRequired (message : String)
  | watchError (message : String)
  deriving DecidableEq, Repr

namespace WatchUpdate.Status

def value : Status → String
  | .new => "new"
  | .kept => "kept"
  | .integrated => "integrated"
  | .dismissed => "dismissed"

def ofValue? (text : String) : Option Status :=
  [.new, .kept, .integrated, .dismissed].find? fun status => status.value = text

end WatchUpdate.Status

/-- What a named reviewer decides about a publication.  An integration is not decided. -/
structure Decision where
  reviewer : Nat
  status : WatchUpdate.Status
  status_ne : status ≠ .integrated
  kind : WatchUpdate.Kind
  note : String
  target : Option (Option Nat)
  now : Nat

/-- The decision of a review, from the publication as it was loaded.  Without a
referential in the request the one of the publication is kept. -/
def reviewUpdate (update : WatchUpdate) (status : String) (reviewer : Option Nat)
    (kind : Option WatchUpdate.Kind) (note : String) (target : Option (Option Nat)) (now : Nat) :
    Except ReviewFailure Decision :=
  match reviewer with
  | none => .error (.reviewRequired "Une décision de veille doit être attribuée à quelqu'un.")
  | some reviewer =>
      if update.status = .integrated then
        .error (.watchError
          ("Cette publication a déjà donné lieu à une mesure : son statut n'est plus " ++
            "modifiable. Pour revenir en arrière, retirez la mesure du référentiel."))
      else
        match WatchUpdate.Status.ofValue? status with
        | none => .error (.watchError "Décision inconnue.")
        | some status =>
            if decided : status = .integrated then .error (.watchError "Décision inconnue.")
            else
              .ok
                { reviewer, status
                  status_ne := decided
                  kind := kind.getD update.kind
                  note := textOr note update.reviewNote
                  target, now }

/-- The measure that a reviewer has written from a publication. -/
structure Integration where
  reviewer : Nat
  referential : Assessments.Referential
  domainCode : String
  code : String
  officialTitle : String
  plainLanguage : String
  level : String
  weight : Float
  effort : String
  impact : String
  sourceUrl : String
  sourceReference : String
  now : Nat

/-- What a request for an integration brings. -/
structure MeasureData where
  domainCode : String
  code : String
  officialTitle : String
  plainLanguage : String
  level : String
  weight : Float
  effort : String
  impact : String

/-- The integration of a publication, as it was loaded. -/
def integrateAsMeasure (update : WatchUpdate) (publisher : String) (reviewer : Option Nat)
    (referential : Option Assessments.Referential) (data : MeasureData) (now : Nat) :
    Except ReviewFailure Integration :=
  match reviewer, referential with
  | none, _ =>
      .error (.reviewRequired "L'ajout d'une mesure depuis la veille doit être attribué à quelqu'un.")
  | some _, none =>
      .error (.watchError "Choisissez le référentiel auquel rattacher cette mesure.")
  | some reviewer, some referential =>
      if strip data.officialTitle = "" ∨ strip data.plainLanguage = "" then
        .error (.watchError
          ("L'intitulé officiel et l'énoncé en langage clair sont obligatoires : une " ++
            "mesure recopiée d'un titre de publication ne veut rien dire pour un dirigeant."))
      else if update.status = .integrated then
        .error (.watchError
          ("Cette publication a déjà donné lieu à une mesure. Pour en ajouter une " ++
            "autre, partez du référentiel plutôt que de la file de veille."))
      else
        .ok
          { reviewer, referential
            domainCode := data.domainCode
            code := data.code
            officialTitle := data.officialTitle
            plainLanguage := data.plainLanguage
            level := data.level
            weight := data.weight
            effort := data.effort
            impact := data.impact
            sourceUrl := update.url
            sourceReference := takeChars (publisher ++ " — " ++ update.title) 300
            now }

/-! ## Writes -/

def WatchUpdate.decided (decision : Decision) (update : WatchUpdate) : WatchUpdate :=
  { update with
    status := decision.status
    reviewedBy := some decision.reviewer
    reviewedAt := some decision.now
    kind := decision.kind
    reviewNote := decision.note
    targetReferential := decision.target.getD update.targetReferential }

def WatchUpdate.integratedAs (measure : Nat) (integration : Integration) (update : WatchUpdate) :
    WatchUpdate :=
  { update with
    integratedMeasures := update.integratedMeasures ++ [measure]
    status := .integrated
    targetReferential := some integration.referential.id
    reviewedBy := some integration.reviewer
    reviewedAt := some integration.now }

theorem WatchUpdate.ident_decided (decision : Decision) (update : WatchUpdate) :
    ident (update.decided decision) = ident update := rfl

theorem WatchUpdate.ident_integratedAs (measure : Nat) (integration : Integration)
    (update : WatchUpdate) : ident (update.integratedAs measure integration) = ident update := rfl

inductive ConsoleWrite where
  | collecter (change : PollWrite)
  | juger (update : Nat) (decision : Decision)
  | integrer (update : Nat) (integration : Integration)

namespace Console

def addMeasure (console : Console) (integration : Integration) :
    Except Assessments.AssessmentsError (Assessments.Database × Assessments.Measure) :=
  Assessments.addMeasure console.catalogue integration.referential integration.domainCode
    integration.code integration.officialTitle integration.plainLanguage integration.level
    integration.weight integration.effort integration.impact integration.sourceUrl
    integration.sourceReference

/-- An integration is all or nothing: a measure that is refused leaves everything as it
was. -/
def apply (console : Console) : ConsoleWrite → Console
  | .collecter change => { console with watch := console.watch.apply change }
  | .juger key decision =>
      { console with
        watch :=
          { console.watch with
            updates := console.watch.updates.modify key (WatchUpdate.decided decision)
              (WatchUpdate.ident_decided decision) } }
  | .integrer key integration =>
      match console.addMeasure integration with
      | .error _ => console
      | .ok (catalogue, measure) =>
          { catalogue
            watch :=
              { console.watch with
                updates := console.watch.updates.modify key
                  (WatchUpdate.integratedAs measure.id integration)
                  (WatchUpdate.ident_integratedAs measure.id integration) } }

/-! ## Requests -/

def getUpdate (console : Console) (key : Nat) : Except ReviewFailure WatchUpdate :=
  match console.watch.updates.find? key with
  | none => .error (.notFound "Suggestion introuvable.")
  | some update => .ok update

/-- A publication, with the publisher of its source. -/
def getPublication (console : Console) (key : Nat) : Except ReviewFailure (WatchUpdate × String) :=
  (console.getUpdate key).map fun update =>
    (update, ((console.watch.sources.find? update.source).map WatchSource.publisher).getD "")

def getReferential (console : Console) (slug : String) :
    Except ReviewFailure Assessments.Referential :=
  match console.catalogue.referentials.rows.find? fun row => row.slug = slug with
  | none => .error (.notFound "Référentiel introuvable.")
  | some referential => .ok referential

/-- The first of the two guards of a publication that was integrated. -/
def validate (update : WatchUpdate) : Except ReviewFailure WatchUpdate :=
  if update.status = .integrated then
    .error (.validation
      "Cette publication a déjà donné lieu à une mesure : son statut n'est plus modifiable.")
  else .ok update

/-- The referential of a review: untouched, taken away, or found by its slug. -/
def target (console : Console) : Option String → Except ReviewFailure (Option (Option Nat))
  | none => .ok none
  | some slug =>
      if slug = "" then .ok (some none)
      else (console.getReferential slug).map fun referential => some (some referential.id)

end Console

inductive ConsoleRequest where
  | interroger (poll : Poll)
  | trier (update : Nat) (reviewer : Option Nat) (status : String)
      (kind : Option WatchUpdate.Kind) (note : String) (referential : Option String) (now : Nat)
  | integrer (update : Nat) (reviewer : Option Nat) (referential : String) (data : MeasureData)
      (now : Nat)

/-- Each request loads what it needs, and writes what it makes of it. -/
def ConsoleRequest.program (runtime : FeedRuntime) :
    ConsoleRequest → Program Console ConsoleWrite
  | .interroger poll =>
      .read fun console =>
        match console.watch.sources.find? poll.source with
        | none => .done
        | some source => .ofWrites ((poll.writes runtime source).map .collecter)
  | .trier key reviewer status kind note referential now =>
      .attempt (fun console => console.getUpdate key >>= Console.validate) fun update =>
        .attempt (Console.target · referential) fun target =>
          match reviewUpdate update status reviewer kind note target now with
          | .error _ => .done
          | .ok decision => .write (.juger key decision) .done
  | .integrer key reviewer referential data now =>
      .attempt (Console.getPublication · key) fun (update, publisher) =>
        .attempt (Console.getReferential · referential) fun row =>
          match integrateAsMeasure update publisher reviewer (some row) data now with
          | .error _ => .done
          | .ok integration => .write (.integrer key integration) .done

/-! ## Publications that stay integrated -/

/-- The reviewer whose decision a write is. -/
def ConsoleWrite.reviewer : ConsoleWrite → Option Nat
  | .collecter _ => none
  | .juger _ decision => some decision.reviewer
  | .integrer _ integration => some integration.reviewer

namespace Console

/-- At most one measure was made of each publication, and those that are integrated are
those of which one was made. -/
structure Sound (console : Console) : Prop where
  once : ∀ row ∈ console.watch.updates, row.integratedMeasures.length ≤ 1
  linked : ∀ row ∈ console.watch.updates,
    row.status = .integrated ↔ row.integratedMeasures ≠ []

/-- What a write may make of a publication: one that is integrated stays so, and another
status is the decision of a reviewer who is named. -/
structure Follows (change : ConsoleWrite) (row later : WatchUpdate) : Prop where
  key : later.id = row.id
  terminal : row.status = .integrated → later.status = .integrated
  named : later.status ≠ row.status →
    ∃ reviewer, change.reviewer = some reviewer ∧ later.reviewedBy = some reviewer

/-- Every publication is there after the write, as it may be. -/
def Respects (console : Console) (change : ConsoleWrite) : Prop :=
  ∀ row ∈ console.watch.updates, ∃ later ∈ (console.apply change).watch.updates,
    Follows change row later

/-- The publication is not integrated. -/
def IsOpen (console : Console) (key : Nat) : Prop :=
  ∀ row ∈ console.watch.updates, row.id = key → row.status ≠ .integrated

/-- A decision, and an integration of which the measure is accepted, find a publication
that is not integrated. -/
def FindsOpen (console : Console) : ConsoleWrite → Prop
  | .collecter _ => True
  | .juger key _ => console.IsOpen key
  | .integrer key integration =>
      (console.addMeasure integration).isOk = true → console.IsOpen key

section Writes

variable {console : Console}

theorem Follows.refl (change : ConsoleWrite) (row : WatchUpdate) : Follows change row row :=
  ⟨rfl, id, fun differs => absurd rfl differs⟩

/-- A poll leaves the publications as they are, and those it adds are new. -/
theorem mem_updates_collecter {change : PollWrite} {row : WatchUpdate} :
    row ∈ (console.watch.apply change).updates →
      row ∈ console.watch.updates ∨ row.status = .new ∧ row.integratedMeasures = [] := by
  intro inside
  cases change with
  | succes key fingerprint now => exact Or.inl inside
  | echec key message count now =>
      rw [Watch.apply, Watch.recordFailure] at inside
      split at inside
      · exact Or.inl inside
      · exact Or.inl inside
  | creer key entry now =>
      rw [Watch.apply, Watch.createUpdate] at inside
      split at inside
      · exact Or.inl inside
      · have listed : row ∈ console.watch.updates.create (Watch.suggestion key entry now)
          (Watch.ident_suggestion key entry now) := inside
        rcases Table.mem_create.mp listed with old | rfl
        · exact Or.inl old
        · exact Or.inr ⟨rfl, rfl⟩

theorem mem_updates_of_mem {change : PollWrite} {row : WatchUpdate}
    (inside : row ∈ console.watch.updates) : row ∈ (console.watch.apply change).updates := by
  cases change with
  | succes key fingerprint now => exact inside
  | echec key message count now =>
      rw [Watch.apply, Watch.recordFailure]
      split
      · exact inside
      · exact inside
  | creer key entry now =>
      rw [Watch.apply, Watch.createUpdate]
      split
      · exact inside
      · have kept : row ∈ console.watch.updates.create (Watch.suggestion key entry now)
          (Watch.ident_suggestion key entry now) := Table.mem_create.mpr (Or.inl inside)
        exact kept

theorem sound_collecter_iff (change : PollWrite) (sound : console.Sound) :
    (console.apply (.collecter change)).Sound ∧ console.Respects (.collecter change) ↔
      console.FindsOpen (.collecter change) := by
  refine iff_of_true ⟨⟨?_, ?_⟩, ?_⟩ trivial
  · intro row inside
    rcases mem_updates_collecter inside with old | ⟨_, none⟩
    · exact sound.once row old
    · rw [none]
      exact Nat.zero_le 1
  · intro row inside
    rcases mem_updates_collecter inside with old | ⟨new, none⟩
    · exact sound.linked row old
    · rw [new, none]
      exact iff_of_false nofun fun some => some rfl
  · exact fun row inside => ⟨row, mem_updates_of_mem inside, .refl _ row⟩

/-- A write that changes one publication, of which no measure was made where it is not
integrated. -/
theorem sound_modify_iff {after : Console} {write : ConsoleWrite} {key : Nat}
    (change : WatchUpdate → WatchUpdate) (keeps : ∀ row, ident (change row) = ident row)
    (applied : console.apply write = after)
    (updates : after.watch.updates = console.watch.updates.modify key change keeps)
    (fresh : ∀ row, row.integratedMeasures = [] → (change row).integratedMeasures.length ≤ 1 ∧
      ((change row).status = .integrated ↔ (change row).integratedMeasures ≠ []))
    (named : ∀ row, ∃ reviewer, write.reviewer = some reviewer ∧
      (change row).reviewedBy = some reviewer)
    (closed : ∀ row ∈ console.watch.updates, row.id = key → row.status = .integrated →
      row.integratedMeasures ≠ [] → ¬((change row).integratedMeasures.length ≤ 1 ∧
        (change row).status = .integrated))
    (sound : console.Sound) :
    after.Sound ∧ console.Respects write ↔ console.IsOpen key := by
  have changed (row : WatchUpdate) (inside : row ∈ console.watch.updates) (mine : row.id = key) :
      change row ∈ after.watch.updates := by
    rw [updates]
    exact Table.mem_modify.mpr ⟨row, inside, if_pos mine⟩
  constructor
  · rintro ⟨later, respects⟩ row inside mine integrated
    refine closed row inside mine integrated ((sound.linked row inside).mp integrated)
      ⟨later.once _ (changed row inside mine), ?_⟩
    obtain ⟨next, there, follows⟩ := respects row inside
    rw [applied] at there
    have same : next = change row :=
      Table.ident_injective there (changed row inside mine) (follows.key.trans (keeps row).symm)
    exact same ▸ follows.terminal integrated
  · intro opens
    have empty (row : WatchUpdate) (inside : row ∈ console.watch.updates) (mine : row.id = key) :
        row.integratedMeasures = [] :=
      not_not.mp fun some => opens row inside mine ((sound.linked row inside).mpr some)
    refine ⟨⟨fun row inside => ?_, fun row inside => ?_⟩, fun row inside => ?_⟩
    · rw [updates, Table.mem_modify] at inside
      obtain ⟨source, old, rfl⟩ := inside
      split
      · exact (fresh source (empty source old ‹_›)).1
      · exact sound.once source old
    · rw [updates, Table.mem_modify] at inside
      obtain ⟨source, old, rfl⟩ := inside
      split
      · exact (fresh source (empty source old ‹_›)).2
      · exact sound.linked source old
    · rw [applied, updates]
      by_cases mine : row.id = key
      · refine ⟨change row, Table.mem_modify.mpr ⟨row, inside, if_pos mine⟩, keeps row, ?_, ?_⟩
        · exact fun integrated => absurd integrated (opens row inside mine)
        · exact fun _ => named row
      · exact ⟨row, Table.mem_modify.mpr ⟨row, inside, if_neg mine⟩, .refl _ row⟩

/-- What a write needs, where the publications are sound: it finds the publication open. -/
theorem sound_apply_iff (change : ConsoleWrite) (sound : console.Sound) :
    (console.apply change).Sound ∧ console.Respects change ↔ console.FindsOpen change := by
  cases change with
  | collecter change => exact sound_collecter_iff change sound
  | juger key decision =>
      refine sound_modify_iff (WatchUpdate.decided decision) (WatchUpdate.ident_decided decision) rfl
        rfl ?_ (fun _ => ⟨_, rfl, rfl⟩) ?_ sound
      · intro row none
        refine ⟨?_, iff_of_false decision.status_ne fun some => some none⟩
        rw [WatchUpdate.decided, none]
        exact Nat.zero_le 1
      · rintro row _ _ _ _ ⟨_, integrated⟩
        exact decision.status_ne integrated
  | integrer key integration =>
      cases added : console.addMeasure integration with
      | error failure =>
          have unchanged : console.apply (.integrer key integration) = console := by
            rw [apply, added]
          refine iff_of_true ⟨?_, fun row inside => ⟨row, ?_, .refl _ row⟩⟩ ?_
          · rw [unchanged]
            exact sound
          · rw [unchanged]
            exact inside
          · intro accepted
            rw [added] at accepted
            cases accepted
      | ok pair =>
          obtain ⟨catalogue, measure⟩ := pair
          have accepted : (console.addMeasure integration).isOk = true := by
            rw [added]
            rfl
          rw [FindsOpen, forall_prop_of_true accepted]
          have applied : console.apply (.integrer key integration) =
              { catalogue
                watch :=
                  { console.watch with
                    updates := console.watch.updates.modify key
                      (WatchUpdate.integratedAs measure.id integration)
                      (WatchUpdate.ident_integratedAs measure.id integration) } } := by
            rw [apply, added]
          rw [applied]
          refine sound_modify_iff (WatchUpdate.integratedAs measure.id integration)
            (WatchUpdate.ident_integratedAs measure.id integration) applied rfl ?_
            (fun _ => ⟨_, rfl, rfl⟩) ?_ sound
          · intro row none
            rw [WatchUpdate.integratedAs, none]
            exact ⟨Nat.le_refl 1, iff_of_true rfl nofun⟩
          · rintro row _ _ _ some ⟨once, _⟩
            rw [WatchUpdate.integratedAs, List.length_append, List.length_singleton] at once
            exact some (List.eq_nil_of_length_eq_zero (by omega))

end Writes

/-! ## Schedules -/

/-- No publication yet, with any sources and any catalogue. -/
def start (sources : Table WatchSource) (catalogue : Assessments.Database) : Console :=
  ⟨⟨sources, .empty⟩, catalogue⟩

theorem sound_start (sources : Table WatchSource) (catalogue : Assessments.Database) :
    (start sources catalogue).Sound :=
  ⟨fun _ inside => absurd inside (Table.not_mem_empty _),
    fun _ inside => absurd inside (Table.not_mem_empty _)⟩

/-- Over any schedule of polls, reviews and integrations, the publications are sound in every
state and each write respects them exactly when each decision, and each integration of which
the measure is accepted, still finds its publication open. -/
theorem publications_sound_iff (runtime : FeedRuntime) (sources : Table WatchSource)
    (catalogue : Assessments.Database) (moments : List (Moment ConsoleRequest)) :
    Always (Interleaving.step apply (ConsoleRequest.program runtime))
          (fun session => session.state.Sound) (.start (start sources catalogue)) moments ∧
        EachStep (Interleaving.step apply (ConsoleRequest.program runtime)) (WriteMeets Respects)
          (.start (start sources catalogue)) moments ↔
      EachStep (Interleaving.step apply (ConsoleRequest.program runtime)) (WriteMeets FindsOpen)
        (.start (start sources catalogue)) moments :=
  always_and_writesMeet_iff (fun _ change => sound_apply_iff change)
    (sound_start sources catalogue) moments

theorem find?_of_getUpdate {console : Console} {key : Nat} {update : WatchUpdate}
    (loaded : console.getUpdate key = .ok update) :
    console.watch.updates.find? key = some update := by
  rw [getUpdate] at loaded
  split at loaded
  · cases loaded
  · cases loaded
    assumption

/-- What was found open is open. -/
theorem isOpen_of_loaded {console : Console} {key : Nat} {update : WatchUpdate}
    (loaded : console.getUpdate key = .ok update) (opens : update.status ≠ .integrated) :
    console.IsOpen key := by
  obtain ⟨there, rfl⟩ := Table.find?_eq_some_iff.mp (find?_of_getUpdate loaded)
  intro row inside mine
  rw [Table.ident_injective inside there mine]
  exact opens

theorem open_of_reviewUpdate {update : WatchUpdate} {status : String} {reviewer : Option Nat}
    {kind : Option WatchUpdate.Kind} {note : String} {target : Option (Option Nat)} {now : Nat}
    {decision : Decision}
    (decided : reviewUpdate update status reviewer kind note target now = .ok decision) :
    update.status ≠ .integrated := by
  unfold reviewUpdate at decided
  split at decided
  · cases decided
  · split at decided
    · cases decided
    · assumption

theorem open_of_integrateAsMeasure {update : WatchUpdate} {publisher : String}
    {reviewer : Option Nat} {referential : Option Assessments.Referential} {data : MeasureData}
    {now : Nat} {integration : Integration}
    (made : integrateAsMeasure update publisher reviewer referential data now = .ok integration) :
    update.status ≠ .integrated := by
  unfold integrateAsMeasure at made
  split at made
  · cases made
  · cases made
  · split at made
    · cases made
    · split at made
      · cases made
      · assumption

/-- A request that nothing interrupts finds the publication open that it has loaded. -/
theorem program_findsOpen (runtime : FeedRuntime) (request : ConsoleRequest) (console : Console) :
    (request.program runtime).WritesFit apply FindsOpen console := by
  cases request with
  | interroger poll =>
      rw [ConsoleRequest.program, Program.WritesFit]
      cases console.watch.sources.find? poll.source with
      | none => trivial
      | some source =>
          refine Program.writesFit_ofWrites (fun change planned state => ?_) console
          obtain ⟨write, _, rfl⟩ := List.mem_map.mp planned
          trivial
  | trier key reviewer status kind note referential now =>
      rw [ConsoleRequest.program, Program.writesFit_attempt]
      intro update loaded
      rw [Program.writesFit_attempt]
      intro target _
      cases decided : reviewUpdate update status reviewer kind note target now with
      | error failure => trivial
      | ok decision =>
          obtain ⟨found, here, valid⟩ := Outcome.bind_eq_ok.mp loaded
          rw [validate] at valid
          split at valid
          · cases valid
          · cases valid
            exact ⟨isOpen_of_loaded here (open_of_reviewUpdate decided), trivial⟩
  | integrer key reviewer referential data now =>
      rw [ConsoleRequest.program, Program.writesFit_attempt]
      rintro ⟨update, publisher⟩ loaded
      dsimp only
      rw [Program.writesFit_attempt]
      intro row _
      cases made : integrateAsMeasure update publisher reviewer (some row) data now with
      | error failure => trivial
      | ok integration =>
          obtain ⟨found, here, same⟩ := Outcome.map_eq_ok.mp loaded
          cases same
          exact ⟨fun _ => isOpen_of_loaded here (open_of_integrateAsMeasure made), trivial⟩

/-- Where no request interrupts another, the publications are always sound. -/
theorem served_sound (runtime : FeedRuntime) (sources : Table WatchSource)
    (catalogue : Assessments.Database) (requests : List ConsoleRequest) :
    Always (serve apply (ConsoleRequest.program runtime)) Sound (start sources catalogue)
      requests :=
  always_of_step (fun console request sound =>
    Program.holds_alone (fun _ change sound fits => ((sound_apply_iff change sound).mpr fits).1)
      (program_findsOpen runtime request console) sound) (sound_start sources catalogue) requests

/-! Two operators at work on the publication of a page that has changed. -/

def hygieneCatalogue : Assessments.Database :=
  { Assessments.Database.empty with
    referentials := ⟨[⟨0, "hygiene", none, true,
      ⟨"Guide d'hygiène", "1", "", "ANSSI", "", "", ""⟩⟩], 1, by decide, by decide⟩
    domains := ⟨[⟨0, 0, "I", "Sensibiliser et former", "", 1⟩], 1, by decide, by decide⟩
    assessed := fun _ absent => (Table.not_mem_empty _ absent).elim }

/-- A measure of the domain, under a code. -/
def measureData (code : String) : MeasureData :=
  ⟨"I", code, "Former les équipes", "Chaque salarié suit une formation.", "", 1.0, "medium",
    "medium"⟩

/-- The page is read twice and has changed: there is a publication. -/
def publicationDetected : List (Moment ConsoleRequest) :=
  [.arrive 0 (.interroger ⟨0, guideA, none, 100⟩), .advance 0, .advance 0,
    .arrive 0 (.interroger ⟨0, guideB, none, 200⟩), .advance 0, .advance 0, .advance 0]

/-- One operator dismisses the publication that another has integrated since the first has
loaded it. -/
def dismissedLate : List (Moment ConsoleRequest) :=
  publicationDetected ++
    [.arrive 1 (.trier 0 (some 11) "dismissed" none "" none 300), .advance 1, .advance 1,
      .arrive 2 (.integrer 0 (some 12) "hygiene" (measureData "7") 310), .advance 2, .advance 2,
      .advance 2, .advance 1]

/-- Two operators integrate the publication, each under a code. -/
def integratedTwice : List (Moment ConsoleRequest) :=
  publicationDetected ++
    [.arrive 1 (.integrer 0 (some 11) "hygiene" (measureData "7") 300), .advance 1, .advance 1,
      .arrive 2 (.integrer 0 (some 12) "hygiene" (measureData "8") 310), .advance 2, .advance 2,
      .advance 2, .advance 1]

/-- The one leaves a measure of a publication that is dismissed, the other two measures of
one publication. -/
theorem late_writes_unsound :
    ¬Always (Interleaving.step apply (ConsoleRequest.program pageRuntime))
        (fun session => session.state.Sound) (.start (start pageWatch.sources hygieneCatalogue))
        dismissedLate ∧
      ¬Always (Interleaving.step apply (ConsoleRequest.program pageRuntime))
        (fun session => session.state.Sound) (.start (start pageWatch.sources hygieneCatalogue))
        integratedTwice := by
  constructor
  · intro always
    have dismissed : ∃ row ∈ (after (Interleaving.step apply (ConsoleRequest.program pageRuntime))
        (.start (start pageWatch.sources hygieneCatalogue)) dismissedLate).state.watch.updates.rows,
        row.status = .dismissed ∧ row.integratedMeasures ≠ [] := by
      decide +kernel
    obtain ⟨row, inside, status, measures⟩ := dismissed
    have integrated := (always.last.linked row inside).mpr measures
    rw [status] at integrated
    cases integrated
  · intro always
    have twice : ∃ row ∈ (after (Interleaving.step apply (ConsoleRequest.program pageRuntime))
        (.start (start pageWatch.sources hygieneCatalogue)) integratedTwice).state.watch.updates.rows,
        row.integratedMeasures.length = 2 := by
      decide +kernel
    obtain ⟨row, inside, two⟩ := twice
    have once := always.last.once row inside
    omega

end Console

end RssiService.RegulatoryWatch
