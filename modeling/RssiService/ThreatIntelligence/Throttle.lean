import Mathlib.Algebra.Order.Ring.Rat
import RssiService.Foundation.Run
import RssiService.Foundation.TokenBucket

/-!
# The throttle of the provider's licence

One bucket, shared by every worker, is updated atomically by a script that takes
the time from its caller.  The world keeps the real instant of every grant beside
the bucket; the readings of the callers' clocks are whatever the events say.
-/

namespace RssiService.ThreatIntelligence

open Foundation Run TokenBucket

variable {Worker Seconds : Type*} [DecidableEq Worker] [Field Seconds] [LinearOrder Seconds]
  [IsStrictOrderedRing Seconds]

/-! ## The script -/

/-- The hash stored under the key of the bucket. -/
structure BucketHash (Seconds : Type*) where
  tokens : Seconds
  timestamp : Seconds

structure RedisTokenBucketThrottle (Seconds : Type*) where
  capacity : Seconds
  refillRate : Seconds

/-- The limits of the licence: bursts of five, one request a second. -/
def licenceThrottle : RedisTokenBucketThrottle Seconds where
  capacity := 5
  refillRate := 1

/-- Seconds after which an unused bucket is forgotten. -/
def bucketLifetime : Seconds := 60

namespace RedisTokenBucketThrottle

variable (throttle : RedisTokenBucketThrottle Seconds)

/-- The tokens that the script counts for a caller whose clock says `now`. -/
def refilled (bucket : Option (BucketHash Seconds)) (now : Seconds) : Seconds :=
  let tokens := (bucket.map BucketHash.tokens).getD throttle.capacity
  let timestamp := (bucket.map BucketHash.timestamp).getD now
  let delta := now - timestamp
  let delta := if delta < 0 then 0 else delta
  min throttle.capacity (tokens + delta * throttle.refillRate)

def tokenBucketScript (bucket : Option (BucketHash Seconds)) (now : Seconds) :
    Bool × BucketHash Seconds :=
  let tokens := throttle.refilled bucket now
  if 1 ≤ tokens then (true, ⟨tokens - 1, now⟩) else (false, ⟨tokens, now⟩)

omit [IsStrictOrderedRing Seconds] in
@[simp]
theorem refilled_none (now : Seconds) : throttle.refilled none now = throttle.capacity := by
  simp [refilled]

/-- The clock of the caller gives back at most `elapsed` seconds. -/
theorem refilled_some_le {hash : BucketHash Seconds} {now elapsed : Seconds}
    (nonneg : 0 ≤ throttle.refillRate) (forward : 0 ≤ elapsed)
    (advances : now - hash.timestamp ≤ elapsed) :
    throttle.refilled (some hash) now ≤
      min throttle.capacity (hash.tokens + elapsed * throttle.refillRate) := by
  refine min_le_min_left throttle.capacity (add_le_add_right ?_ hash.tokens)
  refine mul_le_mul_of_nonneg_right ?_ nonneg
  change (if now - hash.timestamp < 0 then 0 else now - hash.timestamp) ≤ elapsed
  split
  · exact forward
  · exact advances

theorem refilled_nonneg {bucket : Option (BucketHash Seconds)} (now : Seconds)
    (room : 0 ≤ throttle.capacity) (nonneg : 0 ≤ throttle.refillRate)
    (stored : ∀ hash, bucket = some hash → 0 ≤ hash.tokens) :
    0 ≤ throttle.refilled bucket now := by
  cases bucket with
  | none => simpa using room
  | some hash =>
      refine le_min room (add_nonneg (stored hash rfl) (mul_nonneg ?_ nonneg))
      change 0 ≤ if now - hash.timestamp < 0 then 0 else now - hash.timestamp
      split
      · exact le_rfl
      · exact not_lt.mp ‹_›

end RedisTokenBucketThrottle

/-! ## Workers that acquire -/

/-- The bucket in Redis, when the script last wrote it, the workers inside of
`acquire` with their deadlines, and the real instants of the grants. -/
structure ThrottledWorld (Worker Seconds : Type*) [LinearOrder Seconds] where
  instant : Seconds
  bucket : Option (BucketHash Seconds)
  writtenAt : Seconds
  waiting : Worker → Option Seconds
  granted : List Seconds
  ordered : Past instant granted

/-- What a worker does: it calls `acquire`, or it takes one turn of the loop, with
what its clocks say. -/
inductive ThrottleCall (Seconds : Type*) where
  | acquire (timeout monotonic : Seconds)
  | turn (time monotonic : Seconds)

structure ThrottleEvent (Worker Seconds : Type*) [Zero Seconds] [LE Seconds] where
  elapsed : { seconds : Seconds // 0 ≤ seconds }
  worker : Worker
  call : ThrottleCall Seconds

namespace ThrottledWorld

variable (throttle : RedisTokenBucketThrottle Seconds) (world : ThrottledWorld Worker Seconds)

/-- Nobody waits and the bucket has not been used. -/
def idle : ThrottledWorld Worker Seconds where
  instant := 0
  bucket := none
  writtenAt := 0
  waiting _ := none
  granted := []
  ordered := past_nil

def advance (elapsed : { seconds : Seconds // 0 ≤ seconds }) : ThrottledWorld Worker Seconds :=
  { world with
    instant := world.instant + elapsed
    ordered := world.ordered.mono (le_add_of_nonneg_right elapsed.property) }

/-- The bucket that the script reads: an expired key is gone. -/
def liveBucket : Option (BucketHash Seconds) :=
  if world.instant < world.writtenAt + bucketLifetime then world.bucket else none

def write (hash : BucketHash Seconds) : ThrottledWorld Worker Seconds :=
  { world with bucket := some hash, writtenAt := world.instant }

def grant : ThrottledWorld Worker Seconds :=
  { world with granted := world.instant :: world.granted, ordered := world.ordered.cons }

def setWaiting (worker : Worker) (deadline : Option Seconds) : ThrottledWorld Worker Seconds :=
  { world with waiting := Function.update world.waiting worker deadline }

def tryAcquire (time : Seconds) : Bool × ThrottledWorld Worker Seconds :=
  let (allowed, hash) := throttle.tokenBucketScript world.liveBucket time
  (allowed, world.write hash)

/-- One turn of the loop of `acquire`: a granted worker leaves it, and a worker
past its deadline leaves it by an error. -/
def turn (worker : Worker) (deadline time monotonic : Seconds) : ThrottledWorld Worker Seconds :=
  let (allowed, world) := world.tryAcquire throttle time
  if allowed then world.grant.setWaiting worker none
  else if deadline ≤ monotonic then world.setWaiting worker none
  else world

def step (event : ThrottleEvent Worker Seconds) : ThrottledWorld Worker Seconds :=
  let world := world.advance event.elapsed
  match event.call, world.waiting event.worker with
  | .acquire timeout monotonic, none => world.setWaiting event.worker (some (monotonic + timeout))
  | .turn time monotonic, some deadline => world.turn throttle event.worker deadline time monotonic
  | _, _ => world

/-- The event is the turn of a waiting worker that finds a token in the bucket. -/
def Draws (event : ThrottleEvent Worker Seconds) : Prop :=
  ∃ time monotonic deadline, event.call = .turn time monotonic ∧
    world.waiting event.worker = some deadline ∧
    1 ≤ throttle.refilled (world.advance event.elapsed).liveBucket time

/-- A turn that finds a token in the bucket finds one in real time too: the bucket
that real time refills, from which every grant so far was drawn, holds one. -/
def DrawsInTime (event : ThrottleEvent Worker Seconds) : Prop :=
  world.Draws throttle event →
    1 ≤ level throttle.capacity throttle.refillRate world.granted (world.instant + event.elapsed)

/-- The clock of a turn has moved on since the timestamp that it finds by no more
than the real time since the bucket was written. -/
def Steady (event : ThrottleEvent Worker Seconds) : Prop :=
  ∀ time monotonic hash, event.call = .turn time monotonic → world.bucket = some hash →
    time - hash.timestamp ≤ world.instant + event.elapsed - world.writtenAt

/-- No interval of the past holds more grants than five and its seconds. -/
def WithinLicence : Prop :=
  ∀ first last, first ≤ last →
    (countBetween world.granted first last : Seconds) ≤ 5 + (last - first)

/-! ## What an event changes -/

variable {throttle world} {worker : Worker} {deadline time monotonic : Seconds}
  {event : ThrottleEvent Worker Seconds}

/-- What becomes of the bucket in a turn at the tokens that it counts. -/
structure Spends (tokens time : Seconds) (world after : ThrottledWorld Worker Seconds) : Prop where
  instant : after.instant = world.instant
  writtenAt : after.writtenAt = world.instant
  bucket : after.bucket = some (if 1 ≤ tokens then ⟨tokens - 1, time⟩ else ⟨tokens, time⟩)
  granted : after.granted = if 1 ≤ tokens then world.instant :: world.granted else world.granted

omit [IsStrictOrderedRing Seconds] in
theorem turn_spends : Spends (throttle.refilled world.liveBucket time) time world
    (world.turn throttle worker deadline time monotonic) := by
  by_cases token : 1 ≤ throttle.refilled world.liveBucket time
  · constructor <;>
      simp [turn, tryAcquire, RedisTokenBucketThrottle.tokenBucketScript, token, grant,
        setWaiting, write]
  · by_cases late : deadline ≤ monotonic <;> constructor <;>
      simp [turn, tryAcquire, RedisTokenBucketThrottle.tokenBucketScript, token, late,
        setWaiting, write]

/-- An event is the turn of a waiting worker, or leaves the bucket and the grants alone. -/
theorem step_cases (throttle : RedisTokenBucketThrottle Seconds)
    (world : ThrottledWorld Worker Seconds) (event : ThrottleEvent Worker Seconds) :
    (∃ time monotonic deadline, event.call = .turn time monotonic ∧
      world.waiting event.worker = some deadline ∧
      Spends (throttle.refilled (world.advance event.elapsed).liveBucket time) time
        (world.advance event.elapsed) (world.step throttle event)) ∨
    (¬world.Draws throttle event ∧
      (world.step throttle event).instant = world.instant + event.elapsed ∧
      (world.step throttle event).writtenAt = world.writtenAt ∧
      (world.step throttle event).bucket = world.bucket ∧
      (world.step throttle event).granted = world.granted) := by
  obtain ⟨elapsed, worker, call⟩ := event
  cases held : world.waiting worker with
  | none =>
      right
      cases call <;> simp [Draws, step, advance, held, setWaiting]
  | some deadline =>
      cases call with
      | acquire timeout monotonic =>
          right
          simp [Draws, step, advance, held]
      | turn time monotonic =>
          left
          refine ⟨time, monotonic, deadline, rfl, rfl, ?_⟩
          have now : (world.advance elapsed).waiting worker = some deadline := held
          simp only [step, now]
          exact turn_spends

theorem granted_step_of_draws (draws : world.Draws throttle event) :
    (world.step throttle event).granted =
      (world.advance event.elapsed).instant :: world.granted := by
  rcases step_cases throttle world event with ⟨time, monotonic, deadline, turn, held, spends⟩ | idle
  · obtain ⟨time', _, _, turn', _, token⟩ := draws
    cases turn.symm.trans turn'
    rw [spends.granted, if_pos token]
    rfl
  · exact absurd draws idle.1

theorem granted_step_of_not_draws (refused : ¬world.Draws throttle event) :
    (world.step throttle event).granted = world.granted := by
  rcases step_cases throttle world event with ⟨time, monotonic, deadline, turn, held, spends⟩ | idle
  · have short : ¬1 ≤ throttle.refilled (world.advance event.elapsed).liveBucket time :=
      fun token => refused ⟨time, monotonic, deadline, turn, held, token⟩
    rw [spends.granted, if_neg short]
    rfl
  · exact idle.2.2.2.2

/-! ## Within the licence -/

omit [DecidableEq Worker] [IsStrictOrderedRing Seconds] in
theorem withinLicence_iff_bounded :
    world.WithinLicence ↔
      Bounded licenceThrottle.capacity licenceThrottle.refillRate world.granted := by
  simp only [WithinLicence, Bounded, licenceThrottle, mul_one]

theorem withinLicence_step_iff (within : world.WithinLicence) :
    (world.step licenceThrottle event).WithinLicence ↔ world.DrawsInTime licenceThrottle event := by
  rw [withinLicence_iff_bounded] at within ⊢
  by_cases draws : world.Draws licenceThrottle event
  · have served := bounded_cons_iff 5 zero_le_one (world.advance event.elapsed).ordered
    rw [granted_step_of_draws draws]
    refine served.trans ?_
    exact ⟨fun bounded _ => bounded.2, fun timely => ⟨within, timely draws⟩⟩
  · rw [granted_step_of_not_draws draws]
    exact iff_of_true within fun drawn => absurd drawn draws

/-- The grants of a run keep within the licence exactly where every turn that finds
a token in the bucket finds one in real time too. -/
theorem always_withinLicence_iff (start : ThrottledWorld Worker Seconds)
    (events : List (ThrottleEvent Worker Seconds)) :
    Always (step licenceThrottle) WithinLicence start events ↔
      start.WithinLicence ∧ EachStep (step licenceThrottle) (DrawsInTime licenceThrottle)
        start events :=
  always_iff_start_and_eachStep (fun _ _ within => withinLicence_step_iff within) start events

/-! ## Clocks that do not outrun real time -/

/-- The bucket holds no more than real time has left in it. -/
structure Covered (throttle : RedisTokenBucketThrottle Seconds)
    (world : ThrottledWorld Worker Seconds) : Prop where
  unused : world.bucket = none → world.granted = []
  written : world.writtenAt ≤ world.instant
  nonneg : ∀ hash, world.bucket = some hash → 0 ≤ hash.tokens
  le_level : ∀ hash, world.bucket = some hash →
    hash.tokens ≤ level throttle.capacity throttle.refillRate world.granted world.writtenAt

omit [DecidableEq Worker] [IsStrictOrderedRing Seconds] in
theorem covered_idle : Covered throttle (idle : ThrottledWorld Worker Seconds) where
  unused _ := rfl
  written := le_rfl
  nonneg _ stored := absurd stored (Option.some_ne_none _).symm
  le_level _ stored := absurd stored (Option.some_ne_none _).symm

omit [DecidableEq Worker] [IsStrictOrderedRing Seconds] in
theorem covered_of_written {hash : BucketHash Seconds} (bucket : world.bucket = some hash)
    (fresh : world.writtenAt = world.instant) (nonneg : 0 ≤ hash.tokens)
    (below : hash.tokens ≤
      level throttle.capacity throttle.refillRate world.granted world.instant) :
    Covered throttle world := by
  constructor
  · intro empty
    rw [bucket] at empty
    exact absurd empty (Option.some_ne_none hash)
  · exact fresh.le
  · intro stored same
    cases bucket.symm.trans same
    exact nonneg
  · intro stored same
    cases bucket.symm.trans same
    rw [fresh]
    exact below

omit [DecidableEq Worker] in
/-- An expired bucket has been full again for long. -/
theorem Covered.refilled_le_level (covered : Covered throttle world)
    (steady : world.Steady event) (turn : event.call = .turn time monotonic)
    (rate : 0 ≤ throttle.refillRate)
    (refills : throttle.capacity ≤ bucketLifetime * throttle.refillRate) :
    throttle.refilled (world.advance event.elapsed).liveBucket time ≤
      level throttle.capacity throttle.refillRate world.granted
        (world.instant + event.elapsed) := by
  have forward := event.elapsed.property
  have written := covered.written
  cases stored : world.bucket with
  | none =>
      rw [covered.unused stored]
      simp [liveBucket, advance, stored, level]
  | some hash =>
      refine le_trans ?_ (min_le_level world.writtenAt)
      by_cases live : world.instant + event.elapsed < world.writtenAt + bucketLifetime
      · have found : (world.advance event.elapsed).liveBucket = some hash :=
          (if_pos live).trans stored
        rw [found]
        refine (throttle.refilled_some_le rate ?_ (steady time monotonic hash turn stored)).trans ?_
        · linarith
        · exact min_le_min_left _ (add_le_add_left (covered.le_level hash stored) _)
      · have gone : (world.advance event.elapsed).liveBucket = none := if_neg live
        have long := mul_le_mul_of_nonneg_right (le_sub_iff_add_le'.mpr (not_lt.mp live)) rate
        have left := (covered.nonneg hash stored).trans (covered.le_level hash stored)
        rw [gone, throttle.refilled_none, le_min_iff]
        exact ⟨le_rfl, by linarith⟩

omit [DecidableEq Worker] in
theorem Covered.drawsInTime (covered : Covered throttle world) (steady : world.Steady event)
    (rate : 0 ≤ throttle.refillRate)
    (refills : throttle.capacity ≤ bucketLifetime * throttle.refillRate) :
    world.DrawsInTime throttle event := by
  rintro ⟨time, monotonic, deadline, turn, held, token⟩
  exact token.trans (covered.refilled_le_level steady turn rate refills)

theorem Covered.step (covered : Covered throttle world) (steady : world.Steady event)
    (room : 0 ≤ throttle.capacity) (rate : 0 ≤ throttle.refillRate)
    (refills : throttle.capacity ≤ bucketLifetime * throttle.refillRate) :
    Covered throttle (world.step throttle event) := by
  rcases step_cases throttle world event with ⟨time, monotonic, deadline, turn, held, spends⟩ | idle
  · have below := covered.refilled_le_level steady turn rate refills
    have counted : 0 ≤ throttle.refilled (world.advance event.elapsed).liveBucket time := by
      refine throttle.refilled_nonneg time room rate ?_
      intro hash live
      refine covered.nonneg hash ?_
      rw [liveBucket] at live
      split at live
      · exact live
      · exact absurd live (Option.some_ne_none hash).symm
    obtain ⟨instant, writtenAt, bucket, granted⟩ := spends
    have fresh := writtenAt.trans instant.symm
    by_cases token : 1 ≤ throttle.refilled (world.advance event.elapsed).liveBucket time
    · rw [if_pos token] at bucket granted
      refine covered_of_written bucket fresh (sub_nonneg.mpr token) ?_
      rw [granted, instant, level, sub_self, zero_mul, add_zero]
      have under := below.trans level_le_capacity
      exact le_min (by linarith) (sub_le_sub_right below 1)
    · rw [if_neg token] at bucket granted
      refine covered_of_written bucket fresh counted ?_
      rw [granted, instant]
      exact below
  · obtain ⟨_, instant, writtenAt, bucket, granted⟩ := idle
    constructor
    · rw [bucket, granted]
      exact covered.unused
    · rw [instant, writtenAt]
      exact covered.written.trans (le_add_of_nonneg_right event.elapsed.property)
    · rw [bucket]
      exact covered.nonneg
    · rw [bucket, granted, writtenAt]
      exact covered.le_level

/-- Workers whose clocks never outrun real time keep within the licence. -/
theorem always_withinLicence_of_steady {start : ThrottledWorld Worker Seconds}
    (covered : Covered licenceThrottle start) (within : start.WithinLicence)
    (events : List (ThrottleEvent Worker Seconds))
    (steady : EachStep (step licenceThrottle) Steady start events) :
    Always (step licenceThrottle) WithinLicence start events := by
  have refills : (licenceThrottle : RedisTokenBucketThrottle Seconds).capacity ≤
      bucketLifetime * licenceThrottle.refillRate := by
    simp only [licenceThrottle, bucketLifetime, mul_one]
    norm_num
  induction events generalizing start with
  | nil => exact within
  | cons event rest ih =>
      obtain ⟨now, later⟩ := steady
      have timely := covered.drawsInTime now zero_le_one refills
      have next := covered.step now (by simp [licenceThrottle]) zero_le_one refills
      exact ⟨within, ih next ((withinLicence_step_iff within).mpr timely) later⟩

end ThrottledWorld

/-! ## Two clocks ten seconds apart -/

section Skew

open ThrottledWorld

/-- At one instant, a worker whose clock says `time` calls `acquire` and is served or not. -/
def acquireAtOnce (worker : Bool) (time : Rat) : List (ThrottleEvent Bool Rat) :=
  [⟨⟨0, le_rfl⟩, worker, .acquire 30 0⟩, ⟨⟨0, le_rfl⟩, worker, .turn time 0⟩]

/-- Five grants by one clock, a refusal by a clock ten seconds behind, which moves
the timestamp back, and a sixth grant by the first. -/
def skewedCalls : List (ThrottleEvent Bool Rat) :=
  (List.replicate 5 (acquireAtOnce true 0)).flatten ++ acquireAtOnce false (-10) ++
    acquireAtOnce true 0

theorem skewed_clocks_overdraw :
    ¬Always (ThrottledWorld.step licenceThrottle) WithinLicence
        (idle : ThrottledWorld Bool Rat) skewedCalls := by
  intro always
  have window := always.last 0 0 le_rfl
  have grants : countBetween
      (after (ThrottledWorld.step licenceThrottle) (idle : ThrottledWorld Bool Rat)
        skewedCalls).granted 0 0 = 6 := by
    decide +kernel
  rw [grants] at window
  norm_num at window

theorem always_withinLicence_iff_once :
    Always (ThrottledWorld.step licenceThrottle) WithinLicence (idle : ThrottledWorld Bool Rat)
      (acquireAtOnce true 0) := by
  refine (always_withinLicence_iff idle (acquireAtOnce true 0)).mpr ⟨?_, ?_, ?_, trivial⟩
  · intro first last le
    have length : (0 : Rat) ≤ last - first := sub_nonneg.mpr le
    change ((0 : Nat) : Rat) ≤ 5 + (last - first)
    rw [Nat.cast_zero]
    linarith
  · intro _
    decide +kernel
  · intro _
    decide +kernel

end Skew

end RssiService.ThreatIntelligence
