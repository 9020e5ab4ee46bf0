import RssiService.Foundation.Guarantee
import RssiService.PlatformAdmin.Settings

/-!
# Reads of the settings among changes

A reader that misses the cache reads the database and stores what it read.  A change writes
the row and then deletes the cached entry, so it returns before a reader that has already read
the former values stores them.
-/

namespace RssiService.PlatformAdmin

open Foundation Foundation.Run Foundation.Interleaving Foundation.Guarantee Python

/-! ## State -/

/-- What a read has returned, and how many changes had been made by the last one that had
returned when it started. -/
structure Answer where
  key : SettingKey
  value : Value
  since : Nat
  deriving DecidableEq, Repr

/-- The settings, the values that the database had before each change, the changes of the
clients by their rank, the last rank of a change that has returned, and what was read. -/
structure Traffic where
  store : SettingsStore
  past : List Values
  written : Nat → Nat
  returned : Nat
  answers : List Answer
  written_le : ∀ client, written client ≤ past.length
  returned_le : returned ≤ past.length

namespace Traffic

/-- The values of the database, by the number of changes made. -/
def history (traffic : Traffic) : List Values := traffic.past ++ [traffic.store.values]

/-- The setting has had the value since that many changes were made. -/
def Held (env : Environment) (traffic : Traffic) (key : SettingKey) (value : Value)
    (since : Nat) : Prop :=
  ∃ version values, since ≤ version ∧ traffic.history[version]? = some values ∧
    SettingsStore.valueOf env values key = value

/-- No read that has ended, and none that would be made now, returns a value from before a
change that had returned when it started. -/
structure Fresh (env : Environment) (traffic : Traffic) : Prop where
  answered : ∀ answer ∈ traffic.answers,
    traffic.Held env answer.key answer.value answer.since
  next : ∀ key, traffic.Held env key (traffic.store.get env key).1 traffic.returned

end Traffic

/-! ## Requests -/

inductive TrafficWrite where
  | fill (values : Values)
  | answer (answer : Answer)
  | save (client : Nat) (key : SettingKey) (row : Option PlatformSetting)
  | invalidate (client : Nat)
  | expire

namespace Traffic

def apply (traffic : Traffic) : TrafficWrite → Traffic
  | .fill values => { traffic with store := { traffic.store with cache := some values } }
  | .answer answer => { traffic with answers := traffic.answers ++ [answer] }
  | .save client key row =>
      { traffic with
        store := traffic.store.save key row
        past := traffic.history
        written := Function.update traffic.written client traffic.history.length
        written_le := by
          intro other
          rw [Function.update_apply]
          split
          · exact Nat.le_refl _
          · rw [history, List.length_append]
            exact Nat.le_trans (traffic.written_le other) (Nat.le_add_right _ _)
        returned_le := by
          rw [history, List.length_append]
          exact Nat.le_trans traffic.returned_le (Nat.le_add_right _ _) }
  | .invalidate client =>
      { traffic with
        store := traffic.store.invalidateCache
        returned := max traffic.returned (traffic.written client)
        returned_le := Nat.max_le.mpr ⟨traffic.returned_le, traffic.written_le client⟩ }
  | .expire => { traffic with store := traffic.store.invalidateCache }

end Traffic

inductive SettingRequest where
  | read (key : SettingKey)
  | update (name : String) (raw : Json) (actor : Option Nat)
  | reset (name : String)
  | expire

/-- `settings_registry.get`: the cached values, or those of the database, which it caches. -/
def getProgram (env : Environment) (key : SettingKey) (next : Program Traffic TrafficWrite) :
    Program Traffic TrafficWrite :=
  .read fun started =>
    let answered (values : Values) : Program Traffic TrafficWrite :=
      .write (.answer ⟨key, SettingsStore.valueOf env values key, started.returned⟩) next
    match started.store.cache with
    | some values => answered values
    | none => .read fun missed => .write (.fill missed.store.values) (answered missed.store.values)

/-- The write of the row, the deletion of the cached entry, and the return. -/
def changeProgram (client : Nat) (key : SettingKey) (row : Option PlatformSetting) :
    Program Traffic TrafficWrite :=
  .write (.save client key row) (.write (.invalidate client) .done)

/-- A request, under the client that makes it. -/
def SettingRequest.program (conversions : Conversions) (env : Environment) :
    Nat × SettingRequest → Program Traffic TrafficWrite
  | (_, .read key) => getProgram env key .done
  | (client, .update name raw actor) =>
      match SettingKey.ofName? name with
      | none => .done
      | some key =>
          getProgram env key
            (match key.spec.coerce conversions raw with
              | .error _ => .done
              | .ok value => changeProgram client key (some ⟨value, actor⟩))
  | (client, .reset name) =>
      match SettingKey.ofName? name with
      | none => .write (.invalidate client) .done
      | some key => changeProgram client key none
  | (_, .expire) => .write .expire .done

/-- The request of a client, under its name. -/
def named : Moment SettingRequest → Moment (Nat × SettingRequest)
  | .arrive client request => .arrive client (client, request)
  | .advance client => .advance client

/-- What is stored in the cache are values that the settings have had since the last change that
has returned. -/
def Traffic.Fits (env : Environment) (traffic : Traffic) : TrafficWrite → Prop
  | .fill values =>
      ∀ key, traffic.Held env key (SettingsStore.valueOf env values key) traffic.returned
  | .answer _ | .save _ _ _ | .invalidate _ | .expire => True

/-! ## The values that a setting has had -/

namespace Traffic

variable {env : Environment} {traffic later : Traffic} {key : SettingKey} {value : Value}
  {since : Nat}

/-- The history of the database goes on. -/
def Grows (traffic later : Traffic) : Prop := traffic.history <+: later.history

theorem Grows.refl (traffic : Traffic) : traffic.Grows traffic := List.prefix_refl _

theorem Grows.trans (first second third : Traffic) (early : first.Grows second)
    (late : second.Grows third) : first.Grows third := List.IsPrefix.trans early late

theorem Held.mono (held : traffic.Held env key value since) (grows : traffic.Grows later) :
    later.Held env key value since := by
  obtain ⟨version, values, recent, found, same⟩ := held
  obtain ⟨more, longer⟩ := grows
  refine ⟨version, values, recent, ?_, same⟩
  rw [← longer]
  exact (List.getElem?_append_left (List.getElem?_eq_some_iff.mp found).1).trans found

theorem held_current (traffic : Traffic) (key : SettingKey) (recent : since ≤ traffic.past.length) :
    traffic.Held env key (SettingsStore.valueOf env traffic.store.values key) since := by
  refine ⟨traffic.past.length, traffic.store.values, recent, ?_, rfl⟩
  rw [history, List.getElem?_append_right (Nat.le_refl _), Nat.sub_self]
  rfl

theorem Grows.past_le (grows : traffic.Grows later) : traffic.past.length ≤ later.past.length := by
  have longer := grows.length_le
  simpa [history] using longer

theorem grows_apply (traffic : Traffic) (change : TrafficWrite) :
    traffic.Grows (traffic.apply change) := by
  cases change with
  | fill values => exact List.prefix_refl _
  | answer answer => exact List.prefix_refl _
  | save client key row => exact List.prefix_append _ _
  | invalidate client => exact List.prefix_refl _
  | expire => exact List.prefix_refl _

/-! ## What the requests write -/

/-- An answer is a value that the setting has had since the read started. -/
def Meets (env : Environment) (traffic : Traffic) : TrafficWrite → Prop
  | .answer answer => traffic.Held env answer.key answer.value answer.since
  | .fill _ | .save _ _ _ | .invalidate _ | .expire => True

theorem get_of_cold {traffic : Traffic} (cold : traffic.store.cache = none) (key : SettingKey) :
    (traffic.store.get env key).1 = SettingsStore.valueOf env traffic.store.values key :=
  SettingsStore.get_fst (SettingsStore.coherent_of_cold cold) key

theorem get_of_cached {values : Values} (cached : traffic.store.cache = some values)
    (key : SettingKey) :
    (traffic.store.get env key).1 = SettingsStore.valueOf env values key := by
  show SettingsStore.valueOf env traffic.store.stored.1 key = _
  rw [SettingsStore.stored, cached]

/-- The value that a cold cache lets through is the current one. -/
theorem held_of_cold (traffic : Traffic) (cold : traffic.store.cache = none) (key : SettingKey) :
    traffic.Held env key (traffic.store.get env key).1 traffic.returned := by
  rw [get_of_cold cold]
  exact held_current traffic key traffic.returned_le

theorem fresh_apply_iff (fresh : traffic.Fresh env) {change : TrafficWrite}
    (meets : traffic.Meets env change) :
    (traffic.apply change).Fresh env ↔ traffic.Fits env change := by
  have kept {key value since} (held : traffic.Held env key value since) :
      (traffic.apply change).Held env key value since := held.mono (grows_apply traffic change)
  cases change with
  | fill values =>
      constructor
      · intro after key
        exact after.next key
      · intro fits
        exact ⟨fresh.answered, fits⟩
  | answer answer =>
      refine iff_of_true ⟨?_, fresh.next⟩ trivial
      intro other member
      rcases List.mem_append.mp member with old | isLast
      · exact fresh.answered other old
      · obtain rfl := List.mem_singleton.mp isLast
        exact meets
  | save client key row =>
      refine iff_of_true ⟨fun answer member => kept (fresh.answered answer member), ?_⟩ trivial
      intro other
      cases cached : traffic.store.cache with
      | some values =>
          have before := fresh.next other
          rw [get_of_cached cached] at before
          have held : (traffic.apply (.save client key row)).store.cache = some values := cached
          rw [get_of_cached held]
          exact kept before
      | none =>
          exact held_of_cold (traffic.apply (.save client key row)) cached other
  | invalidate client =>
      refine iff_of_true ⟨fresh.answered, fun other => ?_⟩ trivial
      exact held_of_cold (traffic.apply (.invalidate client)) rfl other
  | expire =>
      refine iff_of_true ⟨fresh.answered, fun other => ?_⟩ trivial
      exact held_of_cold (traffic.apply .expire) rfl other

/-- A read returns a value that the setting has had since it started. -/
theorem ensures_getProgram {next : Program Traffic TrafficWrite}
    (continues : ∀ traffic, Ensures apply Grows (Fresh env) (Meets env) next traffic)
    (traffic : Traffic) :
    Ensures apply Grows (Fresh env) (Meets env) (getProgram env key next) traffic := by
  intro started _ fresh
  dsimp only
  cases cached : started.store.cache with
  | some values =>
      intro later grows _
      have now := fresh.next key
      rw [get_of_cached cached] at now
      exact ⟨now.mono grows, continues _⟩
  | none =>
      intro missed grows _ filling growsMore _
      refine ⟨trivial, ?_⟩
      intro later growsLast _
      have recent : started.returned ≤ missed.past.length :=
        Nat.le_trans started.returned_le grows.past_le
      have now : missed.Held env key (SettingsStore.valueOf env missed.store.values key)
          started.returned := held_current missed key recent
      exact ⟨(now.mono growsMore).mono (.trans _ _ _ (grows_apply filling _) growsLast), continues _⟩

theorem ensures_program (conversions : Conversions) (env : Environment)
    (request : Nat × SettingRequest) (traffic : Traffic) :
    Ensures apply Grows (Fresh env) (Meets env)
      (SettingRequest.program conversions env request) traffic := by
  obtain ⟨client, request⟩ := request
  have done (traffic : Traffic) : Ensures apply Grows (Fresh env) (Meets env) .done traffic :=
    trivial
  have changes (key : SettingKey) (row : Option PlatformSetting) (traffic : Traffic) :
      Ensures apply Grows (Fresh env) (Meets env) (changeProgram client key row) traffic :=
    fun _ _ _ => ⟨trivial, fun _ _ _ => ⟨trivial, trivial⟩⟩
  cases request with
  | read key => exact ensures_getProgram done traffic
  | update name raw actor =>
      rw [SettingRequest.program]
      split
      · trivial
      · refine ensures_getProgram ?_ traffic
        intro later
        split
        · trivial
        · exact changes _ _ later
  | reset name =>
      rw [SettingRequest.program]
      split
      · exact fun _ _ _ => ⟨trivial, trivial⟩
      · exact changes _ _ traffic
  | expire => exact fun _ _ _ => ⟨trivial, trivial⟩

end Traffic

/-- Over every schedule of reads, changes and resets, no read returns a value from before a
change that had returned when it started exactly where none did at first and each time values
are stored in the cache, the settings have had them since the last change that has returned. -/
theorem fresh_always_iff (conversions : Conversions) (env : Environment) (start : Traffic)
    (moments : List (Moment SettingRequest)) :
    Always (step Traffic.apply (SettingRequest.program conversions env))
        (fun session => session.state.Fresh env) (Session.start start) (moments.map named) ↔
      start.Fresh env ∧
        EachStep (step Traffic.apply (SettingRequest.program conversions env))
          (WriteMeets (Traffic.Fits env)) (Session.start start) (moments.map named) :=
  Guarantee.always_iff_writesMeet Traffic.Grows.refl Traffic.Grows.trans Traffic.grows_apply
    (Traffic.ensures_program conversions env)
    (fun _ _ fresh meets => Traffic.fresh_apply_iff fresh meets) start (moments.map named)

/-! ## Values stored too late -/

/-- Nothing was changed, and nothing is cached. -/
def quietTraffic : Traffic where
  store := ⟨fun _ => none, none⟩
  past := []
  written := fun _ => 0
  returned := 0
  answers := []
  written_le := fun _ => Nat.le_refl _
  returned_le := Nat.le_refl _

/-- A reader misses the cache and reads the database, a change of the length of trials to
thirty days is made and returns, the reader stores what it had read, and another one reads. -/
def storedTooLate : List (Moment SettingRequest) :=
  [.arrive 0 (.read .trialDays), .advance 0, .advance 0,
    .arrive 1 (.update "trial_days" (.int 30) none), .advance 1, .advance 1, .advance 1,
    .advance 1, .advance 1, .advance 1,
    .advance 0, .arrive 2 (.read .trialDays), .advance 2, .advance 2]

/-- The last read started after the change had returned, and it returns fourteen days. -/
theorem former_value_read :
    ¬ Always (step Traffic.apply (SettingRequest.program plainConversions defaultEnvironment))
      (fun session => session.state.Fresh defaultEnvironment) (Session.start quietTraffic)
      (storedTooLate.map named) := by
  intro always
  generalize left : (after (step Traffic.apply (SettingRequest.program plainConversions
    defaultEnvironment)) (Session.start quietTraffic) (storedTooLate.map named)).state = traffic
  have law : traffic.Fresh defaultEnvironment := left ▸ always.last
  have read : (⟨.trialDays, .int 14, 1⟩ : Answer) ∈ traffic.answers := by
    rw [← left]
    decide +kernel
  have whole : traffic.history.length = 2 := by
    rw [← left]
    decide +kernel
  have changed : (traffic.history[1]?).map
      (fun values => SettingsStore.valueOf defaultEnvironment values .trialDays) =
        some (.int 30) := by
    rw [← left]
    decide +kernel
  obtain ⟨version, values, recent, found, same⟩ := law.answered _ read
  have inside := (List.getElem?_eq_some_iff.mp found).1
  obtain rfl : version = 1 := by
    rw [whole] at inside
    have least : 1 ≤ version := recent
    omega
  rw [found, Option.map_some, same] at changed
  cases changed

end RssiService.PlatformAdmin
