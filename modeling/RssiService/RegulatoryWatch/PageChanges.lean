import RssiService.RegulatoryWatch.Sources

/-!
# Changes of a page

The fingerprint of a page is at once the memory of its last content and the identifier of
the suggestion of a change, and it is stored before the suggestion is created.
-/

namespace RssiService.RegulatoryWatch

open Foundation Foundation.Run Foundation.Interruption Python

/-- The poll succeeds, and it has read this text of a page. -/
def Poll.Observe (runtime : FeedRuntime) (source : WatchSource) (poll : Poll) (text : String) :
    Prop :=
  texteVu runtime source poll.fetched = some text ∧ poll.reussi runtime source = true

namespace Collecte

/-- The poll observes another text than the successful poll before it. -/
structure Change (runtime : FeedRuntime) (collecte : Collecte) (poll : Poll) (source : WatchSource)
    (text : String) : Prop where
  found : collecte.watch.sources.find? poll.source = some source
  observed : poll.Observe runtime source text
  differs : ∃ previous, collecte.contenus source.id = some previous ∧ text ≠ previous

/-- A poll that observes a change leaves a new suggestion for it in the queue. -/
def Signale (runtime : FeedRuntime) (collecte : Collecte) (poll : Poll) : Prop :=
  ∀ source text, Change runtime collecte poll source text →
    ∃ row ∈ (collecte.step runtime poll).watch.updates, row ∉ collecte.watch.updates ∧
      row.source = source.id ∧ row.externalId = fingerprint runtime text ∧ row.status = .new

/-- The fingerprint of what a change brings is neither the one that is stored nor that of a
suggestion of the source. -/
def Neuve (runtime : FeedRuntime) (collecte : Collecte) (poll : Poll) : Prop :=
  ∀ source text, Change runtime collecte poll source text →
    source.contentFingerprint ≠ fingerprint runtime text ∧
      collecte.watch.connue source.id (fingerprint runtime text) = false

/-- A source of which a page was read has a fingerprint. -/
def Remembers (collecte : Collecte) : Prop :=
  ∀ source ∈ collecte.watch.sources, (collecte.contenus source.id).isSome = true →
    source.contentFingerprint ≠ ""

end Collecte

/-! ## What a poll stores -/

section Stored

variable {runtime : FeedRuntime} {watch : Watch} {source : WatchSource} {poll : Poll}
  {text : String}

theorem fingerprint_ne (runtime : FeedRuntime) (contenu : String) :
    fingerprint runtime contenu ≠ "" := by
  intro empty
  have length := runtime.sha256_length contenu
  rw [show runtime.sha256 contenu = "" from empty] at length
  cases length

/-- A poll that observes a text reads a page that has it. -/
theorem lire_of_observe (observed : poll.Observe runtime source text) :
    ∃ contenu, text = texteDePage contenu ∧
      lire runtime source poll.fetched = lirePage runtime source contenu := by
  obtain ⟨seen, succeeds⟩ := observed
  rw [Poll.reussi, Bool.and_eq_true] at succeeds
  cases fetched : poll.fetched with
  | networkError message => rw [fetched] at seen; cases seen
  | raises => rw [fetched] at seen; cases seen
  | response status encoding content =>
      rw [fetched, texteVu] at seen
      split at seen
      · rename_i page
        obtain ⟨contenu, decoded, rfl⟩ := Option.map_eq_some_iff.mp seen
        refine ⟨contenu, rfl, ?_⟩
        have configured : source.isConfigured = true := by
          rw [WatchSource.isConfigured, page]
          rfl
        have read := succeeds.1
        rw [fetched] at read
        unfold lire at read ⊢
        rw [configured] at read ⊢
        simp only [Bool.not_true, Bool.false_eq_true, if_false, if_pos page, decoded] at read ⊢
        split at read
        · cases read
        · rename_i answered
          rw [if_neg answered]
      · cases seen

/-- The fingerprint that is stored for a source. -/
def Watch.storedOf (watch : Watch) (key : Nat) : Option String :=
  (watch.sources.find? key).map WatchSource.contentFingerprint

theorem storedOf_recordSuccess (key : Nat) (stored : String) (now : Nat) :
    (watch.recordSuccess key stored now).storedOf key =
      (watch.storedOf key).map (textOr stored) := by
  rw [Watch.storedOf, Watch.recordSuccess, Table.find?_modify_self, Watch.storedOf,
    Option.map_map, Option.map_map]
  rfl

theorem storedOf_recordFailure (key other : Nat) (message : String) (count now : Nat) :
    (watch.recordFailure other message count now).storedOf key = watch.storedOf key := by
  rw [Watch.storedOf, Watch.recordFailure, Watch.storedOf]
  split
  · rw [Table.find?_modify]
    cases watch.sources.find? key with
    | none => rfl
    | some row =>
        rw [Option.map_some, Option.map_some, Option.map_some]
        split
        · rfl
        · rfl
  · rfl

theorem storedOf_createUpdate (key other : Nat) (entry : FeedEntry) (now : Nat) :
    (watch.createUpdate other entry now).storedOf key = watch.storedOf key := by
  rw [Watch.storedOf, sources_createUpdate, Watch.storedOf]

theorem textOr_ne {first second : String} (ne : second ≠ "") : textOr first second ≠ "" := by
  rw [textOr]
  split
  · exact ne
  · assumption

/-- A fingerprint that is stored is replaced by another one at most. -/
theorem storedOf_pollSource {key : Nat} (stored : ∃ value, watch.storedOf key = some value ∧
    value ≠ "") :
    ∃ value, (watch.pollSource runtime source poll).1.storedOf key = some value ∧ value ≠ "" := by
  change ∃ value,
    (carry Watch.apply (poll.writes runtime source) poll.cut watch).storedOf key = some value ∧
      value ≠ ""
  refine carry_invariant (P := fun state : Watch => ∃ value, state.storedOf key = some value ∧
    value ≠ "") (fun state change _ holds => ?_) stored
  obtain ⟨value, same, ne⟩ := holds
  cases change with
  | succes other written now =>
      by_cases mine : other = key
      · subst mine
        refine ⟨textOr written value, ?_, textOr_ne ne⟩
        rw [Watch.apply, storedOf_recordSuccess, same]
        rfl
      · refine ⟨value, ?_, ne⟩
        rw [← same]
        exact congrArg _ (@find?_apply_of_ne state (.succes other written now) key mine)
  | echec other message count now =>
      exact ⟨value, (storedOf_recordFailure _ _ _ _ _).trans same, ne⟩
  | creer other entry now => exact ⟨value, (storedOf_createUpdate _ _ _ _).trans same, ne⟩

/-- A poll that observes a text stores a fingerprint. -/
theorem storedOf_of_observe (here : watch.sources.find? source.id = some source)
    (observed : poll.Observe runtime source text) :
    ∃ value, (watch.pollSource runtime source poll).1.storedOf source.id = some value ∧
      value ≠ "" := by
  obtain ⟨contenu, _, read⟩ := lire_of_observe observed
  have ends := (Bool.and_eq_true _ _ ▸ observed.2).2
  have stored : watch.storedOf source.id = some source.contentFingerprint := congrArg _ here
  have written : (watch.recordSuccess source.id (fingerprint runtime (texteDePage contenu))
      poll.now).storedOf source.id = some (fingerprint runtime (texteDePage contenu)) := by
    rw [storedOf_recordSuccess, stored, Option.map_some, textOr, if_neg (fingerprint_ne _ _)]
  change ∃ value,
    (carry Watch.apply (poll.writes runtime source) poll.cut watch).storedOf source.id =
      some value ∧ value ≠ ""
  rw [carry_of_completes ends, Poll.writes, read, lirePage, pageSignature]
  dsimp only
  split
  · rename_i same
    refine ⟨source.contentFingerprint, ?_, same ▸ fingerprint_ne _ _⟩
    refine (storedOf_recordSuccess _ _ _).trans ?_
    rw [stored]
    rfl
  · split
    · exact ⟨_, written, fingerprint_ne _ _⟩
    · exact ⟨_, (storedOf_createUpdate _ _ _ _).trans written, fingerprint_ne _ _⟩

/-- A suggestion is created unless the publication is known. -/
theorem exists_created_iff (watch : Watch) (key : Nat) (entry : FeedEntry) (now : Nat) :
    (∃ row ∈ (watch.createUpdate key entry now).updates, row ∉ watch.updates ∧ row.source = key ∧
      row.externalId = entry.externalId ∧ row.status = .new) ↔
      watch.connue key entry.externalId = false := by
  rw [Watch.createUpdate]
  split
  · rename_i known
    refine iff_of_false ?_ (Bool.eq_false_iff.not_left.mpr known)
    rintro ⟨row, inside, absent, _⟩
    exact absent inside
  · rename_i unknown
    refine iff_of_true ?_ (Bool.eq_false_iff.mpr unknown)
    have created : Watch.suggestion key entry now watch.updates.next ∈ watch.updates.create
        (Watch.suggestion key entry now) (Watch.ident_suggestion key entry now) :=
      Table.mem_create.mpr (Or.inr rfl)
    exact ⟨_, created, fun old => Table.ne_next old rfl, rfl, rfl, rfl⟩

end Stored

/-! ## Runs -/

namespace Collecte

section Runs

variable {runtime : FeedRuntime} {collecte : Collecte}

theorem remembers_iff : collecte.Remembers ↔
    ∀ key, (collecte.contenus key).isSome = true → ∀ stored,
      collecte.watch.storedOf key = some stored → stored ≠ "" := by
  constructor
  · intro remembers key seen stored found
    obtain ⟨source, here, rfl⟩ := Option.map_eq_some_iff.mp found
    obtain ⟨inside, rfl⟩ := Table.find?_eq_some_iff.mp here
    exact remembers source inside seen
  · intro remembers source inside seen
    have here : collecte.watch.sources.find? source.id = some source :=
      Table.find?_eq_some_iff.mpr ⟨inside, rfl⟩
    exact remembers source.id seen _ (congrArg _ here)

/-- A poll changes what was read of its source only. -/
theorem contenus_poll (source : WatchSource) (poll : Poll) (key : Nat) :
    (collecte.poll runtime source poll).contenus key =
      if key = source.id ∧ poll.reussi runtime source = true then
        texteVu runtime source poll.fetched
      else collecte.contenus key := by
  rw [Collecte.poll]
  dsimp only
  cases poll.reussi runtime source with
  | false => simp
  | true =>
      by_cases mine : key = source.id
      · subst mine
        simp
      · simp [mine]

theorem remembers_step (poll : Poll) (remembers : collecte.Remembers) :
    (collecte.step runtime poll).Remembers := by
  rw [step]
  cases found : collecte.watch.sources.find? poll.source with
  | none => exact remembers
  | some source =>
      obtain ⟨inside, mine⟩ := Table.find?_eq_some_iff.mp found
      have here : collecte.watch.sources.find? source.id = some source :=
        Table.find?_eq_some_iff.mpr ⟨inside, rfl⟩
      rw [remembers_iff] at remembers ⊢
      intro key seen stored after
      dsimp only at seen after
      rw [contenus_poll] at seen
      split at seen
      · rename_i observed
        obtain ⟨rfl, succeeds⟩ := observed
        obtain ⟨text, read⟩ := Option.isSome_iff_exists.mp seen
        obtain ⟨value, same, ne⟩ := storedOf_of_observe here ⟨read, succeeds⟩
        cases same.symm.trans after
        exact ne
      · by_cases same : source.id = key
        · subst same
          have before : collecte.watch.storedOf source.id = some source.contentFingerprint :=
            congrArg _ here
          obtain ⟨value, now, ne⟩ := @storedOf_pollSource runtime collecte.watch source poll source.id
            ⟨_, before, remembers source.id seen _ before⟩
          cases now.symm.trans after
          exact ne
        · exact remembers key seen stored
            ((congrArg _ (find?_pollSource_of_ne same)).symm.trans after)

/-- A change leaves a suggestion exactly where its fingerprint is new. -/
theorem signale_iff (poll : Poll) (remembers : collecte.Remembers) :
    Signale runtime collecte poll ↔ Neuve runtime collecte poll := by
  refine forall₂_congr fun source text => forall_congr' fun change => ?_
  obtain ⟨contenu, rfl, read⟩ := lire_of_observe change.observed
  have ends := (Bool.and_eq_true _ _ ▸ change.observed.2).2
  have stored : source.contentFingerprint ≠ "" := by
    obtain ⟨inside, _⟩ := Table.find?_eq_some_iff.mp change.found
    obtain ⟨previous, seen, _⟩ := change.differs
    exact remembers source inside (Option.isSome_iff_exists.mpr ⟨previous, seen⟩)
  have after : (collecte.step runtime poll).watch =
      (plan source poll.now (lirePage runtime source contenu)).foldl Watch.apply collecte.watch := by
    rw [step, change.found]
    change carry Watch.apply (poll.writes runtime source) poll.cut collecte.watch = _
    rw [carry_of_completes ends, Poll.writes, read]
  rw [after, lirePage, pageSignature]
  dsimp only
  generalize fingerprint runtime (texteDePage contenu) = empreinte
  split
  · rename_i same
    refine iff_of_false ?_ fun new => new.1 same
    rintro ⟨row, inside, absent, _⟩
    exact absent inside
  · rename_i apart
    rw [and_iff_right apart]
    exact exists_created_iff (collecte.watch.recordSuccess source.id empreinte poll.now) _ _ _

/-- Over any run of polls, each poll that observes another text than the successful poll
before it leaves a suggestion exactly when the fingerprint of the text is not stored already
and no suggestion of the source carries it. -/
theorem changes_reported_iff (runtime : FeedRuntime) (watch : Watch) (polls : List Poll) :
    EachStep (step runtime) (Signale runtime) (start watch) polls ↔
      EachStep (step runtime) (Neuve runtime) (start watch) polls :=
  eachStep_congr (I := Remembers) (fun _ => remembers_step) (fun _ => signale_iff)
    (fun _ _ seen => by cases seen) polls

/-- A change is lost where the poll leaves the suggestions as they were. -/
theorem not_signale {poll : Poll} (source : WatchSource) (text : String)
    (change : Change runtime collecte poll source text)
    (same : (collecte.step runtime poll).watch.updates.rows = collecte.watch.updates.rows) :
    ¬Signale runtime collecte poll := by
  intro signale
  obtain ⟨row, inside, absent, _⟩ := signale source text change
  rw [Table.mem_def, same] at inside
  exact absent inside

/-- A content that comes back is not reported a second time, and the change of which the
poll was interrupted between its two writes is never reported. -/
theorem changes_lost :
    ¬EachStep (step pageRuntime) (Signale pageRuntime) (start pageWatch)
        [⟨0, guideA, none, 100⟩, ⟨0, guideB, none, 200⟩, ⟨0, guideA, none, 300⟩,
          ⟨0, guideB, none, 400⟩] ∧
      ¬EachStep (step pageRuntime) (Signale pageRuntime) (start pageWatch)
        [⟨0, guideA, none, 100⟩, ⟨0, guideB, some 1, 200⟩, ⟨0, guideB, none, 300⟩] := by
  constructor
  · rintro ⟨_, _, _, returns, _⟩
    refine not_signale (pageSource (some 300) (pageDigest "Guide A")) "Guide B"
      ⟨?_, ⟨?_, ?_⟩, "Guide A", ?_, ?_⟩ ?_ returns
    all_goals decide +kernel
  · rintro ⟨_, _, interrupted, _⟩
    refine not_signale (pageSource (some 200) (pageDigest "Guide B")) "Guide B"
      ⟨?_, ⟨?_, ?_⟩, "Guide A", ?_, ?_⟩ ?_ interrupted
    all_goals decide +kernel

end Runs

end Collecte

end RssiService.RegulatoryWatch
