import RssiService.RegulatoryWatch.Sources

/-!
# Counted failures

The counter of a source is the number of its polls that have failed since the last one that
succeeded, as long as each failure ends where it is recorded.
-/

namespace RssiService.RegulatoryWatch

open Foundation Foundation.Run Foundation.Interruption Python

namespace Watch

/-- The counter of a source, if the source is there. -/
def counterOf (watch : Watch) (key : Nat) : Option Nat :=
  (watch.sources.find? key).map WatchSource.consecutiveFailures

theorem failing_mem_iff (watch : Watch) (source : WatchSource) (there : source ∈ watch.sources) :
    source.failing ∈ watch.sourcesHealth.failing ↔
      failureThreshold ≤ source.consecutiveFailures := by
  rw [sourcesHealth, List.mem_map]
  constructor
  · rintro ⟨other, listed, same⟩
    have counters := congrArg FailingSource.consecutiveFailures same
    change other.consecutiveFailures = source.consecutiveFailures at counters
    have failing := (List.mem_filter.mp listed).2
    exact counters ▸ of_decide_eq_true failing
  · intro failing
    exact ⟨source, List.mem_filter.mpr ⟨there, decide_eq_true failing⟩, rfl⟩

end Watch

/-! ## What a write does to the counter -/

section Counters

variable {watch : Watch} {key now : Nat} {runtime : FeedRuntime} {source : WatchSource}
  {poll : Poll}

theorem counterOf_recordSuccess (fingerprint : String) :
    (watch.recordSuccess key fingerprint now).counterOf key =
      (watch.counterOf key).map fun _ => 0 := by
  rw [Watch.counterOf, Watch.recordSuccess, Table.find?_modify_self, Watch.counterOf,
    Option.map_map, Option.map_map]
  rfl

theorem counterOf_recordFailure (message : String) {count : Nat} (fits : count ≤ maxFailures) :
    (watch.recordFailure key message count now).counterOf key =
      (watch.counterOf key).map fun _ => count := by
  rw [Watch.counterOf, Watch.recordFailure, if_pos fits, Table.find?_modify_self, Watch.counterOf,
    Option.map_map, Option.map_map]
  rfl

theorem counterOf_createUpdate (other : Nat) (entry : FeedEntry) :
    (watch.createUpdate other entry now).counterOf key = watch.counterOf key := by
  rw [Watch.counterOf, sources_createUpdate, Watch.counterOf]

theorem counterOf_creer (other : Nat) (entries : List FeedEntry) :
    ((entries.map fun entry => PollWrite.creer other entry now).foldl Watch.apply watch).counterOf
      key = watch.counterOf key := by
  induction entries generalizing watch with
  | nil => rfl
  | cons entry rest ih => exact ih.trans (counterOf_createUpdate other entry)

/-! ## What a poll does to the counter -/

theorem counterOf_reussi {counter : Nat} (counts : watch.counterOf source.id = some counter)
    (succeeds : poll.reussi runtime source = true) :
    (watch.pollSource runtime source poll).1.counterOf source.id = some 0 := by
  rw [Poll.reussi, Bool.and_eq_true] at succeeds
  obtain ⟨read, ends⟩ := succeeds
  change (carry Watch.apply (poll.writes runtime source) poll.cut watch).counterOf source.id = _
  rw [carry_of_completes ends, Poll.writes]
  have zero (state : Watch) (fingerprint : String)
      (counted : state.counterOf source.id = some counter) :
      (state.recordSuccess source.id fingerprint poll.now).counterOf source.id = some 0 := by
    rw [counterOf_recordSuccess, counted]
    rfl
  cases found : lire runtime source poll.fetched with
  | sansAdresse => rw [found] at read; cases read
  | inattendu => rw [found] at read; cases read
  | echec message => rw [found] at read; cases read
  | inchangee => exact zero watch _ counts
  | premiere empreinte => exact zero watch _ counts
  | changee empreinte extrait =>
      exact (counterOf_createUpdate _ _).trans (zero watch empreinte counts)
  | entrees entries =>
      rw [plan, List.foldl_append]
      exact zero _ "" ((counterOf_creer _ _).trans counts)

theorem counterOf_echec {counter : Nat} {message : String}
    (counts : watch.counterOf source.id = some counter)
    (read : lire runtime source poll.fetched = .echec message)
    (fits : source.consecutiveFailures < maxFailures)
    (ends : completes (poll.writes runtime source) poll.cut = true) :
    (watch.pollSource runtime source poll).1.counterOf source.id =
      some (source.consecutiveFailures + 1) := by
  change (carry Watch.apply (poll.writes runtime source) poll.cut watch).counterOf source.id = _
  rw [carry_of_completes ends, Poll.writes, read, plan]
  refine (counterOf_recordFailure message fits).trans ?_
  rw [counts]
  rfl

/-- A poll that records no failure does not raise the counter. -/
theorem counterOf_of_unrecorded (runtime : FeedRuntime) (poll : Poll) {counter : Nat}
    (counts : watch.counterOf source.id = some counter)
    (unrecorded : ∀ message count now, .echec source.id message count now ∈
      made (poll.writes runtime source) poll.cut → maxFailures < count) :
    ∃ later ≤ counter,
      (watch.pollSource runtime source poll).1.counterOf source.id = some later := by
  change ∃ later ≤ counter,
    (carry Watch.apply (poll.writes runtime source) poll.cut watch).counterOf source.id = some later
  refine carry_invariant
    (P := fun state : Watch => ∃ later ≤ counter, state.counterOf source.id = some later)
    (fun state change done holds => ?_) ⟨counter, Nat.le_refl _, counts⟩
  obtain ⟨later, le, same⟩ := holds
  have mine : change.source = source.id := source_of_mem_plan (mem_of_made done)
  cases change with
  | succes key fingerprint now =>
      obtain rfl : key = source.id := mine
      refine ⟨0, Nat.zero_le _, ?_⟩
      rw [Watch.apply, counterOf_recordSuccess, same]
      rfl
  | echec key message count now =>
      obtain rfl : key = source.id := mine
      refine ⟨later, le, ?_⟩
      rw [Watch.apply, Watch.recordFailure, if_neg (Nat.not_le.mpr (unrecorded _ _ _ done))]
      exact same
  | creer key entry now =>
      exact ⟨later, le, (counterOf_createUpdate _ _).trans same⟩

end Counters

/-! ## Runs -/

namespace Collecte

/-- Every counter is the number of failures since the last success, and the sources that
fail are reported. -/
def CountsFailures (collecte : Collecte) : Prop :=
  ∀ source ∈ collecte.watch.sources,
    source.consecutiveFailures = collecte.echecs source.id ∧
      (source.failing ∈ collecte.watch.sourcesHealth.failing ↔
        failureThreshold ≤ collecte.echecs source.id)

/-- The poll of a source that is configured makes all its writes, and it has read an answer
or failed in a way that it records. -/
def Recorded (runtime : FeedRuntime) (collecte : Collecte) (poll : Poll) : Prop :=
  ∀ source, collecte.watch.sources.find? poll.source = some source → source.isConfigured = true →
    completes (poll.writes runtime source) poll.cut = true ∧
      ((lire runtime source poll.fetched).reussie = true ∨
        (∃ message, lire runtime source poll.fetched = .echec message) ∧
          source.consecutiveFailures < maxFailures)

section Runs

variable {runtime : FeedRuntime} {collecte : Collecte}

theorem countsFailures_iff :
    collecte.CountsFailures ↔
      ∀ key counter, collecte.watch.counterOf key = some counter → counter = collecte.echecs key := by
  constructor
  · intro counts key counter found
    obtain ⟨source, here, rfl⟩ := Option.map_eq_some_iff.mp found
    obtain ⟨inside, rfl⟩ := Table.find?_eq_some_iff.mp here
    exact (counts source inside).1
  · intro counts source inside
    have found : collecte.watch.sources.find? source.id = some source :=
      Table.find?_eq_some_iff.mpr ⟨inside, rfl⟩
    have same := counts source.id source.consecutiveFailures (congrArg _ found)
    exact ⟨same, same ▸ Watch.failing_mem_iff _ source inside⟩

theorem counterOf_poll_of_ne (runtime : FeedRuntime) {source : WatchSource} (poll : Poll) {key : Nat}
    (apart : key ≠ source.id) :
    (collecte.poll runtime source poll).watch.counterOf key = collecte.watch.counterOf key ∧
      (collecte.poll runtime source poll).echecs key = collecte.echecs key := by
  constructor
  · exact congrArg _ (find?_pollSource_of_ne apart.symm)
  · rw [Collecte.poll]
    dsimp only
    split
    · rfl
    · exact Function.update_of_ne apart _ _

/-- After the poll of a source its counter alone is to be compared. -/
theorem countsFailures_poll_iff {source : WatchSource} {poll : Poll} {later : Nat}
    (counts : collecte.CountsFailures)
    (counted : (collecte.poll runtime source poll).watch.counterOf source.id = some later) :
    (collecte.poll runtime source poll).CountsFailures ↔
      later = (collecte.poll runtime source poll).echecs source.id := by
  rw [countsFailures_iff] at counts ⊢
  constructor
  · intro after
    exact after source.id later counted
  · intro same key counter found
    by_cases mine : key = source.id
    · subst mine
      rw [counted] at found
      exact Option.some.inj found ▸ same
    · obtain ⟨counters, failures⟩ := counterOf_poll_of_ne runtime poll mine
      rw [failures]
      exact counts key counter (counters ▸ found)

theorem echecs_poll {source : WatchSource} {poll : Poll} (configured : source.isConfigured = true) :
    (collecte.poll runtime source poll).echecs source.id =
      if poll.reussi runtime source then 0 else collecte.echecs source.id + 1 := by
  rw [Collecte.poll]
  simp only [configured, Bool.not_true, Bool.false_eq_true, if_false, Function.update_self]

/-- The failure that a poll records is the whole of what it writes. -/
theorem echec_of_made {source : WatchSource} {poll : Poll} {key count now : Nat} {message : String}
    (done : .echec key message count now ∈ made (poll.writes runtime source) poll.cut) :
    lire runtime source poll.fetched = .echec message ∧ count = source.consecutiveFailures + 1 ∧
      completes (poll.writes runtime source) poll.cut = true := by
  have planned := mem_of_made done
  rw [Poll.writes] at planned done ⊢
  cases found : lire runtime source poll.fetched with
  | sansAdresse => rw [found] at planned; cases planned
  | inattendu => rw [found] at planned; cases planned
  | inchangee => rw [found] at planned; cases List.mem_singleton.mp planned
  | premiere empreinte => rw [found] at planned; cases List.mem_singleton.mp planned
  | changee empreinte extrait =>
      rw [found] at planned
      rcases List.mem_pair.mp planned with same | same
      · cases same
      · cases same
  | entrees entries =>
      rw [found] at planned
      rcases List.mem_append.mp planned with creates | last
      · obtain ⟨entry, _, same⟩ := List.mem_map.mp creates
        cases same
      · cases List.mem_singleton.mp last
  | echec reason =>
      rw [found] at planned done
      cases List.mem_singleton.mp planned
      refine ⟨rfl, rfl, ?_⟩
      by_contra broken
      exact absurd (@mem_of_made_append _ [] _ _ _ (Bool.eq_false_iff.mpr broken) done) List.not_mem_nil

theorem countsFailures_step_iff (poll : Poll) (counts : collecte.CountsFailures) :
    (collecte.step runtime poll).CountsFailures ↔ Recorded runtime collecte poll := by
  rw [step]
  cases here : collecte.watch.sources.find? poll.source with
  | none =>
      refine iff_of_true counts fun source found => ?_
      rw [here] at found
      cases found
  | some source =>
      have counted : collecte.watch.counterOf source.id = some source.consecutiveFailures := by
        obtain ⟨_, mine⟩ := Table.find?_eq_some_iff.mp here
        exact congrArg _ (mine ▸ here)
      have same := countsFailures_iff.mp counts _ _ counted
      have recorded_iff : Recorded runtime collecte poll ↔ (source.isConfigured = true →
          completes (poll.writes runtime source) poll.cut = true ∧
            ((lire runtime source poll.fetched).reussie = true ∨
              (∃ message, lire runtime source poll.fetched = .echec message) ∧
                source.consecutiveFailures < maxFailures)) := by
        refine ⟨fun recorded => recorded source here, fun recorded other found => ?_⟩
        cases here.symm.trans found
        exact recorded
      rw [recorded_iff]
      dsimp only
      by_cases configured : source.isConfigured = true
      · rw [forall_prop_of_true configured]
        cases succeeds : poll.reussi runtime source with
        | true =>
            have read := Bool.and_eq_true _ _ ▸ succeeds
            refine iff_of_true ?_ ⟨read.2, Or.inl read.1⟩
            rw [countsFailures_poll_iff counts (counterOf_reussi counted succeeds),
              echecs_poll configured, succeeds]
            rfl
        | false =>
            by_cases recorded : completes (poll.writes runtime source) poll.cut = true ∧
              (∃ message, lire runtime source poll.fetched = .echec message) ∧
                source.consecutiveFailures < maxFailures
            · obtain ⟨ends, ⟨message, read⟩, fits⟩ := recorded
              refine iff_of_true ?_ ⟨ends, Or.inr ⟨⟨message, read⟩, fits⟩⟩
              rw [countsFailures_poll_iff counts (counterOf_echec counted read fits ends),
                echecs_poll configured, succeeds, same]
              rfl
            · obtain ⟨later, le, after⟩ := counterOf_of_unrecorded runtime poll
                counted fun message count now done => by
                  obtain ⟨read, rfl, ends⟩ := echec_of_made done
                  by_contra fits
                  exact recorded ⟨ends, ⟨message, read⟩, by omega⟩
              refine iff_of_false ?_ ?_
              · rw [countsFailures_poll_iff counts after, echecs_poll configured, succeeds]
                simp only [Bool.false_eq_true, if_false]
                omega
              · rintro ⟨ends, read | failed⟩
                · rw [Poll.reussi, read, ends] at succeeds
                  cases succeeds
                · exact recorded ⟨ends, failed⟩
      · refine iff_of_true ?_ fun configured' => absurd configured' configured
        have nothing : poll.writes runtime source = [] := by
          simp [Poll.writes, lire, configured, plan]
        have idle : (collecte.poll runtime source poll).watch = collecte.watch := by
          change carry Watch.apply (poll.writes runtime source) poll.cut collecte.watch = _
          rw [nothing, carry_nil]
        rw [countsFailures_poll_iff counts ((congrArg (Watch.counterOf · source.id) idle).trans
          counted), same]
        simp [Collecte.poll, configured]

theorem countsFailures_start (watch : Watch) : (start watch).CountsFailures := by
  rw [countsFailures_iff]
  intro key counter found
  change counter = (watch.counterOf key).getD 0
  rw [show watch.counterOf key = some counter from found, Option.getD_some]

/-- Over any run of polls the counters are the numbers of failures, and the sources that
fail are reported, exactly when each poll of a configured source makes all its writes and
either reads an answer or fails in a way that is recorded. -/
theorem failures_counted_iff (runtime : FeedRuntime) (watch : Watch) (polls : List Poll) :
    Always (step runtime) CountsFailures (start watch) polls ↔
      EachStep (step runtime) (Recorded runtime) (start watch) polls :=
  always_iff_eachStep_of_start (fun _ => countsFailures_step_iff) (countsFailures_start watch) polls

/-- A page in an encoding that is not known fails three times, and its source is not
reported. -/
theorem unknown_encoding_uncounted :
    ¬Always (step pageRuntime) CountsFailures (start pageWatch)
      [⟨0, .response 200 (some "x-mac-inconnu") [], none, 100⟩,
        ⟨0, .response 200 (some "x-mac-inconnu") [], none, 200⟩,
        ⟨0, .response 200 (some "x-mac-inconnu") [], none, 300⟩] := by
  intro always
  have counted := countsFailures_iff.mp always.last 0 0 (by decide +kernel)
  revert counted
  decide +kernel

end Runs

end Collecte

end RssiService.RegulatoryWatch
