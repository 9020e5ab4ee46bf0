import RssiService.Accounts.SecondFactor

/-!
# Failed attempts and the lockout ladder

The failures of an account, and those of an address, are consecutive until the
account authenticates completely, from that address.  The counters forget more
than that: a right password clears them before the second factor is proven, and
so does the authentication of another account from the address, and the window
of a counter ends a fixed time after its first failure.
-/

namespace RssiService.Accounts

open Foundation Foundation.Run

/-! ## Attempts -/

/-- What an attempt comes to; `broken` is an exception that nothing catches. -/
inductive AttemptOutcome where
  | wrong
  | challenged
  | complete
  | broken
  deriving DecidableEq, Repr

structure Attempt where
  email : String
  ip : String
  outcome : AttemptOutcome
  deriving DecidableEq, Repr

def Attempt.keys (runtime : LoginRuntime) (attempt : Attempt) : List LockKey :=
  attemptKeys runtime.toRuntime attempt.email attempt.ip

def Attempt.account (runtime : LoginRuntime) (attempt : Attempt) : LockKey :=
  lockKey runtime.toRuntime .account attempt.email

def passwordOutcome (runtime : LoginRuntime) (site : LoginSite) (email password : String) :
    AttemptOutcome :=
  match authenticate runtime site email password with
  | none => .wrong
  | some user => if site.isTotpEnabled user.id then .challenged else .complete

def secondFactorOutcome (runtime : LoginRuntime) (now : Nat) (site : LoginSite) (user : User)
    (code recoveryCode : String) : AttemptOutcome :=
  match site.verifySecondFactor runtime now user code recoveryCode with
  | .error _ => .broken
  | .ok none => .wrong
  | .ok (some _) => .complete

/-- The attempt that a request makes; none where it is not evaluated. -/
def LoginState.attempt? (runtime : LoginRuntime) (state : LoginState) :
    LoginEvent → Option Attempt
  | .login email password ip _ =>
      match checkNotLockedOut runtime.toRuntime state.site.lockouts state.now email ip with
      | .error _ => none
      | .ok () => some ⟨email, ip, passwordOutcome runtime state.site email password⟩
  | .verify token code recoveryCode ip =>
      if code = "" ∧ recoveryCode = "" then none
      else
        match state.site.resolveMfaChallenge state.now token with
        | none => none
        | some user =>
            match checkNotLockedOut runtime.toRuntime state.site.lockouts state.now user.email
              ip with
            | .error _ => none
            | .ok () =>
                some ⟨user.email, ip,
                  secondFactorOutcome runtime state.now state.site user code recoveryCode⟩
  | _ => none

/-! ## The claim and its condition -/

/-- For each key the accounts of its consecutive failures, and the end of the delay
that the last of them calls for. -/
structure AttemptHistory where
  state : LoginState
  pending : LockKey → List LockKey
  blockedUntil : LockKey → Nat

def AttemptHistory.fresh (state : LoginState) : AttemptHistory := ⟨state, fun _ => [], fun _ => 0⟩

/-- The seconds of the rung that a number of failures has reached. -/
def rungSeconds (failures : Nat) : Nat := (lockoutSecondsFor failures).getD 0

def AttemptHistory.fail (runtime : LoginRuntime) (history : AttemptHistory) (attempt : Attempt) :
    AttemptHistory :=
  { history with
    pending := fun key =>
      if key ∈ attempt.keys runtime then history.pending key ++ [attempt.account runtime]
      else history.pending key
    blockedUntil := fun key =>
      if key ∈ attempt.keys runtime then
        history.state.now +
          rungSeconds ((history.pending key).length + 1) * microsecondsPerSecond
      else history.blockedUntil key }

def AttemptHistory.forgive (runtime : LoginRuntime) (history : AttemptHistory)
    (attempt : Attempt) : AttemptHistory :=
  { history with
    pending := fun key =>
      if key ∈ attempt.keys runtime then
        (history.pending key).filter fun account => account ≠ attempt.account runtime
      else history.pending key }

def AttemptHistory.note (runtime : LoginRuntime) (history : AttemptHistory) :
    Option Attempt → AttemptHistory
  | none => history
  | some attempt =>
      match attempt.outcome with
      | .wrong => history.fail runtime attempt
      | .complete => history.forgive runtime attempt
      | .challenged | .broken => history

def attemptStep (runtime : LoginRuntime) (history : AttemptHistory) (event : LoginEvent) :
    AttemptHistory :=
  { history.note runtime (history.state.attempt? runtime event) with
    state := loginStep runtime history.state event }

/-- Until the end of its delay, a key is locked. -/
def AttemptHistory.HeldBack (history : AttemptHistory) : Prop :=
  ∀ key instant, history.state.now ≤ instant → instant < history.blockedUntil key →
    history.state.site.lockouts.retryAfter? instant key ≠ none

/-- An attempt is evaluated only after the delays of its keys. -/
def WaitsOut (runtime : LoginRuntime) (history : AttemptHistory) (event : LoginEvent) : Prop :=
  ∀ attempt, history.state.attempt? runtime event = some attempt →
    ∀ key ∈ attempt.keys runtime, history.blockedUntil key ≤ history.state.now

/-- The counter of a failure, once incremented. -/
def Lockouts.nextCount (lockouts : Lockouts) (now : Nat) (key : LockKey) : Nat :=
  (lockouts.failures.get now key).getD 0 + 1

/-- Each counter that a failure increments is on the rung of the consecutive
failures of its key. -/
def ReachesRung (runtime : LoginRuntime) (history : AttemptHistory) (event : LoginEvent) : Prop :=
  ∀ attempt, history.state.attempt? runtime event = some attempt → attempt.outcome = .wrong →
    ∀ key ∈ attempt.keys runtime,
      rungSeconds ((history.pending key).length + 1) ≤
        rungSeconds (history.state.site.lockouts.nextCount history.state.now key)

/-- A right password that still awaits a second factor finds no failure of its
keys, a complete authentication finds those of its own account only, and a
failure finds the counters of its keys within their window. -/
def NothingForgotten (runtime : LoginRuntime) (history : AttemptHistory) (event : LoginEvent) :
    Prop :=
  ∀ attempt, history.state.attempt? runtime event = some attempt →
    ∀ key ∈ attempt.keys runtime,
      match attempt.outcome with
      | .wrong => history.pending key ≠ [] →
          history.state.site.lockouts.failures.get history.state.now key ≠ none
      | .challenged => history.pending key = []
      | .complete => ∀ account ∈ history.pending key, account = attempt.account runtime
      | .broken => True

/-! ## Counters and locks of one key -/

section Keys

variable {lockouts : Lockouts} {now : Nat} {key other : LockKey}

/-- A lock that refuses at an instant. -/
def Refuses (instant : Nat) (lock : Option (CacheEntry Nat)) : Prop :=
  ∃ entry, lock = some entry ∧ instant < entry.value ∧ instant < entry.expiresAt

theorem retryAfter?_ne_none_iff :
    lockouts.retryAfter? now key ≠ none ↔ Refuses now (lockouts.locks key) := by
  rw [Lockouts.retryAfter?, Cache.get, Cache.live, Refuses]
  cases held : lockouts.locks key with
  | none => simp
  | some entry =>
      by_cases live : now < entry.expiresAt <;> by_cases locked : now < entry.value <;>
        simp [live, locked]

theorem Refuses.earlier {first second : Nat} {lock : Option (CacheEntry Nat)}
    (refuses : Refuses second lock) (ordered : first ≤ second) : Refuses first lock := by
  obtain ⟨entry, held, locked, live⟩ := refuses
  exact ⟨entry, held, Nat.lt_of_le_of_lt ordered locked, Nat.lt_of_le_of_lt ordered live⟩

theorem nodup_attemptKeys (runtime : Runtime) (email ip : String) :
    (attemptKeys runtime email ip).Nodup := by
  by_cases named : email = "" <;> by_cases addressed : ip = "" <;>
    simp [attemptKeys, named, addressed, lockKey]

/-- The counter and the lock of a key. -/
def Lockouts.of (lockouts : Lockouts) (key : LockKey) :
    Option (CacheEntry Nat) × Option (CacheEntry Nat) :=
  (lockouts.failures key, lockouts.locks key)

/-- A counter that has expired opens again. -/
def nextCounter (now : Nat) (counter : Option (CacheEntry Nat)) : CacheEntry Nat :=
  match counter.filter fun entry => now < entry.expiresAt with
  | none => ⟨1, now + attemptWindowSeconds * microsecondsPerSecond⟩
  | some entry => { entry with value := entry.value + 1 }

/-- What a failure leaves for its key. -/
def countFailure (now : Nat) (current : Option (CacheEntry Nat) × Option (CacheEntry Nat)) :
    Option (CacheEntry Nat) × Option (CacheEntry Nat) :=
  (some (nextCounter now current.1),
    match lockoutSecondsFor (nextCounter now current.1).value with
    | none => current.2
    | some seconds =>
        some ⟨now + seconds * microsecondsPerSecond, now + seconds * microsecondsPerSecond⟩)

theorem nextCounter_value :
    (nextCounter now (lockouts.failures key)).value = lockouts.nextCount now key := by
  rw [nextCounter, Lockouts.nextCount, Cache.get, Cache.live]
  cases (lockouts.failures key).filter fun entry => decide (now < entry.expiresAt) <;> rfl

/-- A failure of a key that is not locked locks it for the rung of its counter. -/
theorem refuses_countFailure_iff
    {current : Option (CacheEntry Nat) × Option (CacheEntry Nat)} {instant : Nat}
    (free : ¬ Refuses now current.2) (later : now ≤ instant) :
    Refuses instant (countFailure now current).2 ↔
      instant < now + rungSeconds (nextCounter now current.1).value * microsecondsPerSecond := by
  rw [countFailure, rungSeconds]
  dsimp only
  cases lockoutSecondsFor (nextCounter now current.1).value with
  | none =>
      refine iff_of_false (fun refuses => free (refuses.earlier later)) ?_
      rw [Option.getD_none, Nat.zero_mul]
      exact Nat.not_lt.mpr later
  | some seconds => simp [Refuses]

theorem of_recordFailure : (lockouts.recordFailure now key).of other =
    if other = key then countFailure now (lockouts.of key) else lockouts.of other := by
  rw [Lockouts.recordFailure, Cache.incr, Cache.live, countFailure, nextCounter, Lockouts.of,
    Lockouts.of]
  cases (lockouts.failures key).filter fun entry => decide (now < entry.expiresAt) with
  | none =>
      dsimp only [Option.map_none, Option.getD_none]
      cases lockoutSecondsFor 1 <;> by_cases mine : other = key <;> simp [Lockouts.of, mine]
  | some entry =>
      dsimp only [Option.map_some, Option.getD_some]
      cases lockoutSecondsFor (entry.value + 1) <;> by_cases mine : other = key <;> simp [Lockouts.of, mine]

theorem of_recordFailedAttempt (runtime : Runtime) (email ip : String) :
    (recordFailedAttempt runtime lockouts now email ip).of other =
      if other ∈ attemptKeys runtime email ip then countFailure now (lockouts.of other)
      else lockouts.of other := by
  rw [recordFailedAttempt]
  refine view_foldl_keys Lockouts.of (countFailure now) ?_ (nodup_attemptKeys runtime email ip) _ _
  intro _ _ _
  exact of_recordFailure

theorem of_clearFailedAttempts (runtime : Runtime) (email ip : String) :
    (clearFailedAttempts runtime lockouts email ip).of other =
      if other ∈ attemptKeys runtime email ip then (none, none) else lockouts.of other := by
  rw [clearFailedAttempts]
  refine view_foldl_keys Lockouts.of (fun _ => (none, none)) ?_
    (nodup_attemptKeys runtime email ip) _ _
  intro lockouts key other
  by_cases mine : other = key <;> simp [Lockouts.of, Lockouts.clearKey, mine]

theorem free_of_checkNotLockedOut {runtime : Runtime} {email ip : String}
    (free : checkNotLockedOut runtime lockouts now email ip = .ok ())
    (attempted : key ∈ attemptKeys runtime email ip) : lockouts.retryAfter? now key = none := by
  rw [checkNotLockedOut] at free
  split at free
  · cases free
  · rename_i none
    exact List.findSome?_eq_none_iff.mp none key attempted

end Keys

/-! ## What a request leaves of a key -/

section Requests

variable {runtime : LoginRuntime} {state : LoginState} {key : LockKey}

/-- What an attempt leaves for one of its keys. -/
def AttemptOutcome.effect (now : Nat) :
    AttemptOutcome → Option (CacheEntry Nat) × Option (CacheEntry Nat) →
      Option (CacheEntry Nat) × Option (CacheEntry Nat)
  | .wrong => countFailure now
  | .challenged | .complete => fun _ => (none, none)
  | .broken => id

def LoginState.ofAfter (runtime : LoginRuntime) (state : LoginState) (key : LockKey) :
    Option Attempt → Option (CacheEntry Nat) × Option (CacheEntry Nat)
  | none => state.site.lockouts.of key
  | some attempt =>
      if key ∈ attempt.keys runtime then
        attempt.outcome.effect state.now (state.site.lockouts.of key)
      else state.site.lockouts.of key

theorem ofAfter_broken {email ip : String} :
    state.ofAfter runtime key (some ⟨email, ip, .broken⟩) = state.site.lockouts.of key :=
  ite_id _

theorem of_login {email password ip token : String} :
    (loginView runtime state.now state.site email password ip token).1.lockouts.of key =
      state.ofAfter runtime key (state.attempt? runtime (.login email password ip token)) := by
  have course := loginView_course runtime state.now state.site email password ip token
  generalize loginView runtime state.now state.site email password ip token = result at course
  rw [LoginState.attempt?]
  cases course with
  | locked seconds held => simp only [held, LoginState.ofAfter]
  | wrong free rejected =>
      simp only [free, passwordOutcome, rejected]
      exact of_recordFailedAttempt runtime.toRuntime email ip
  | challenged user free passed enabled =>
      simp only [free, passwordOutcome, passed, enabled]
      exact of_clearFailedAttempts runtime.toRuntime email ip
  | admitted user free passed disabled =>
      simp only [free, passwordOutcome, passed, disabled]
      exact of_clearFailedAttempts runtime.toRuntime email ip

theorem verifySecondFactor_lockouts {now : Nat} {site after : LoginSite} {user : User}
    {code recoveryCode : String}
    (passed : site.verifySecondFactor runtime now user code recoveryCode = .ok (some after)) :
    after.lockouts = site.lockouts := by
  rcases verifySecondFactor_eq_some passed with ⟨_, rfl⟩ | consumed
  · rfl
  · obtain ⟨_, _, rfl⟩ := consumeRecoveryCode_eq_some consumed
    rfl

theorem of_verify {token code recoveryCode ip : String} :
    (twoFactorVerifyView runtime state.now state.site token code recoveryCode ip).1.lockouts.of
        key =
      state.ofAfter runtime key
        (state.attempt? runtime (.verify token code recoveryCode ip)) := by
  have course := twoFactorVerifyView_course runtime state.now state.site token code recoveryCode ip
  generalize twoFactorVerifyView runtime state.now state.site token code recoveryCode ip =
    result at course
  rw [LoginState.attempt?]
  cases course with
  | unread status detail absent =>
      rcases absent with missing | unknown
      · rw [if_pos missing, LoginState.ofAfter]
      · simp only [unknown, ite_self, LoginState.ofAfter]
  | locked user seconds resolved held =>
      simp only [resolved, held, ite_self, LoginState.ofAfter]
  | failed user given resolved free error rejected =>
      simp only [resolved, free, if_neg given, secondFactorOutcome, rejected]
      exact ofAfter_broken.symm
  | wrong user given resolved free rejected =>
      simp only [resolved, free, if_neg given, secondFactorOutcome, rejected]
      exact of_recordFailedAttempt runtime.toRuntime user.email ip
  | verified user after given resolved free passed =>
      simp only [resolved, free, if_neg given, secondFactorOutcome, passed]
      have same : after.lockouts = state.site.lockouts := verifySecondFactor_lockouts passed
      rw [LoginState.ofAfter, ← same]
      exact of_clearFailedAttempts runtime.toRuntime user.email ip

theorem withAccount_lockouts {user : Nat} {view : User → LoginSite × LoginAnswer}
    (kept : ∀ account, (view account).1.lockouts = state.site.lockouts) :
    (state.withAccount user view).1.lockouts = state.site.lockouts :=
  withAccount_cases (P := fun result => result.1.lockouts = state.site.lockouts) rfl
    fun account _ _ => kept account

/-- Only the attempts touch the counters and the locks. -/
theorem of_loginStep (event : LoginEvent) :
    (loginStep runtime state event).site.lockouts.of key =
      state.ofAfter runtime key (state.attempt? runtime event) := by
  have unchanged {after : LoginSite} (same : after.lockouts = state.site.lockouts) :
      after.lockouts.of key = state.ofAfter runtime key none := by
    rw [same, LoginState.ofAfter]
  cases event with
  | login email password ip token => exact of_login
  | verify token code recoveryCode ip => exact of_verify
  | setup user secret =>
      refine unchanged (withAccount_lockouts fun account => ?_)
      rw [twoFactorSetupView, startTotpEnrollment]
      cases runtime.encryptSecret secret <;> rfl
  | confirm user code draw =>
      refine unchanged (withAccount_lockouts fun account => ?_)
      rw [twoFactorConfirmView, confirmTotpEnrollment]
      split
      · rfl
      · rename_i after confirmed
        split at confirmed
        · cases confirmed
        · split at confirmed <;> cases confirmed
          rfl
  | disable user password =>
      refine unchanged (withAccount_lockouts fun account => ?_)
      rw [twoFactorDisableView]
      split <;> rfl
  | wait microseconds => exact unchanged rfl

/-- An attempt is evaluated when none of its keys is locked. -/
theorem free_of_attempt {event : LoginEvent} {attempt : Attempt}
    (attempted : state.attempt? runtime event = some attempt)
    (concerned : key ∈ attempt.keys runtime) :
    ¬ Refuses state.now (state.site.lockouts.locks key) := by
  rw [← retryAfter?_ne_none_iff, not_not]
  cases event with
  | login email password ip token =>
      rw [LoginState.attempt?] at attempted
      split at attempted
      · cases attempted
      · rename_i free
        cases attempted
        exact free_of_checkNotLockedOut free concerned
  | verify token code recoveryCode ip =>
      rw [LoginState.attempt?] at attempted
      split at attempted
      · cases attempted
      · split at attempted
        · cases attempted
        · split at attempted
          · cases attempted
          · rename_i free
            cases attempted
            exact free_of_checkNotLockedOut free concerned
  | setup _ _ | confirm _ _ _ | disable _ _ | wait _ => cases attempted

end Requests

/-! ## Delays -/

section Delays

variable {runtime : LoginRuntime} {history : AttemptHistory}

theorem heldBack_iff : history.HeldBack ↔
    ∀ key instant, history.state.now ≤ instant → instant < history.blockedUntil key →
      Refuses instant (history.state.site.lockouts.of key).2 :=
  forall₂_congr fun _ _ => imp_congr_right fun _ => imp_congr_right fun _ =>
    retryAfter?_ne_none_iff

theorem waitsOut (event : LoginEvent) (held : history.HeldBack) :
    WaitsOut runtime history event := by
  intro attempt attempted key concerned
  by_contra blocked
  exact free_of_attempt attempted concerned
    (heldBack_iff.mp held key history.state.now (Nat.le_refl _) (Nat.not_le.mp blocked))

/-- What leaves each key as it is, or has it already behind its delay. -/
theorem heldBack_of_same {after : AttemptHistory} (held : history.HeldBack)
    (later : history.state.now ≤ after.state.now)
    (same : ∀ key, after.blockedUntil key ≤ after.state.now ∨
      after.blockedUntil key = history.blockedUntil key ∧
        after.state.site.lockouts.of key = history.state.site.lockouts.of key) :
    after.HeldBack := by
  rw [heldBack_iff] at held ⊢
  intro key instant due blocked
  rcases same key with behind | ⟨sameDelay, sameLock⟩
  · exact absurd (Nat.lt_of_lt_of_le blocked behind) (Nat.not_lt.mpr due)
  · rw [sameLock]
    exact held key instant (Nat.le_trans later due) (sameDelay ▸ blocked)

theorem elapsed_of_attempt {state : LoginState} {event : LoginEvent} {attempt : Attempt}
    (attempted : state.attempt? runtime event = some attempt) : event.elapsed = 0 := by
  cases event with
  | login _ _ _ _ | verify _ _ _ _ => rfl
  | setup _ _ | confirm _ _ _ | disable _ _ | wait _ => cases attempted

/-- An attempt that is not wrong leaves the delays behind it. -/
theorem heldBack_of_not_wrong {event : LoginEvent} (held : history.HeldBack)
    (right : ∀ attempt, history.state.attempt? runtime event = some attempt →
      attempt.outcome ≠ .wrong) : (attemptStep runtime history event).HeldBack := by
  have now : history.state.now ≤ (attemptStep runtime history event).state.now :=
    Nat.le_add_right _ _
  refine heldBack_of_same held now fun key => ?_
  have left : (attemptStep runtime history event).state.site.lockouts.of key =
      history.state.ofAfter runtime key (history.state.attempt? runtime event) := of_loginStep event
  cases attempted : history.state.attempt? runtime event with
  | none =>
      refine Or.inr ⟨?_, by rw [left, attempted, LoginState.ofAfter]⟩
      rw [attemptStep, attempted]
      rfl
  | some attempt =>
      have delay : (attemptStep runtime history event).blockedUntil key =
          history.blockedUntil key := by
        rw [attemptStep, attempted, AttemptHistory.note]
        have notWrong := right attempt attempted
        cases outcome : attempt.outcome with
        | wrong => exact absurd outcome notWrong
        | challenged | complete | broken => rfl
      by_cases concerned : key ∈ attempt.keys runtime
      · refine Or.inl ?_
        rw [delay]
        exact Nat.le_trans (waitsOut event held attempt attempted key concerned) now
      · refine Or.inr ⟨delay, ?_⟩
        rw [left, attempted, LoginState.ofAfter, if_neg concerned]

theorem blockedUntil_fail {event : LoginEvent} {attempt : Attempt}
    (attempted : history.state.attempt? runtime event = some attempt)
    (wrong : attempt.outcome = .wrong) (key : LockKey) :
    (attemptStep runtime history event).blockedUntil key =
      if key ∈ attempt.keys runtime then
        history.state.now +
          rungSeconds ((history.pending key).length + 1) * microsecondsPerSecond
      else history.blockedUntil key := by
  rw [attemptStep, attempted, AttemptHistory.note, wrong]
  rfl

/-- A failure is held back exactly where its counters have reached the rungs of the
consecutive failures. -/
theorem heldBack_of_wrong_iff {event : LoginEvent} {attempt : Attempt} (held : history.HeldBack)
    (attempted : history.state.attempt? runtime event = some attempt)
    (wrong : attempt.outcome = .wrong) :
    (attemptStep runtime history event).HeldBack ↔
      ∀ key ∈ attempt.keys runtime,
        rungSeconds ((history.pending key).length + 1) ≤
          rungSeconds (history.state.site.lockouts.nextCount history.state.now key) := by
  have now : (attemptStep runtime history event).state.now = history.state.now := by
    rw [attemptStep, loginStep, elapsed_of_attempt attempted]
    rfl
  have left (key : LockKey) : (attemptStep runtime history event).state.site.lockouts.of key =
      if key ∈ attempt.keys runtime then
        countFailure history.state.now (history.state.site.lockouts.of key)
      else history.state.site.lockouts.of key := by
    have after : (attemptStep runtime history event).state.site.lockouts.of key =
      history.state.ofAfter runtime key (history.state.attempt? runtime event) := of_loginStep event
    rw [after, attempted, LoginState.ofAfter, wrong, AttemptOutcome.effect]
  have refuses {key : LockKey} (concerned : key ∈ attempt.keys runtime) {instant : Nat}
      (later : history.state.now ≤ instant) :
      Refuses instant (countFailure history.state.now (history.state.site.lockouts.of key)).2 ↔
        instant < history.state.now +
          rungSeconds (history.state.site.lockouts.nextCount history.state.now key) *
            microsecondsPerSecond := by
    rw [refuses_countFailure_iff (free_of_attempt attempted concerned) later, ← nextCounter_value]
    rfl
  rw [heldBack_iff, now]
  constructor
  · intro after key concerned
    by_contra short
    have behind := Nat.mul_lt_mul_of_pos_right (Nat.not_le.mp short)
      (by decide : 0 < microsecondsPerSecond)
    have reached := after key _ (Nat.le_add_right _ _) (by
      rw [blockedUntil_fail attempted wrong, if_pos concerned]
      exact Nat.add_lt_add_left behind _)
    rw [left, if_pos concerned, refuses concerned (Nat.le_add_right _ _)] at reached
    exact Nat.lt_irrefl _ reached
  · intro reached key instant later blocked
    rw [blockedUntil_fail attempted wrong] at blocked
    rw [left]
    split at blocked
    · rename_i concerned
      rw [if_pos concerned, refuses concerned later]
      exact Nat.lt_of_lt_of_le blocked
        (Nat.add_le_add_left (Nat.mul_le_mul_right _ (reached key concerned)) _)
    · rename_i apart
      rw [if_neg apart]
      exact heldBack_iff.mp held key instant later blocked

theorem heldBack_step_iff (runtime : LoginRuntime) (event : LoginEvent) (held : history.HeldBack) :
    (attemptStep runtime history event).HeldBack ↔ ReachesRung runtime history event := by
  by_cases failing : ∃ attempt, history.state.attempt? runtime event = some attempt ∧
      attempt.outcome = .wrong
  · obtain ⟨attempt, attempted, wrong⟩ := failing
    rw [heldBack_of_wrong_iff held attempted wrong]
    constructor
    · intro reached other same _
      rw [attempted] at same
      cases same
      exact reached
    · intro reached
      exact reached attempt attempted wrong
  · have right : ∀ attempt, history.state.attempt? runtime event = some attempt →
        attempt.outcome ≠ .wrong := fun attempt attempted wrong =>
      failing ⟨attempt, attempted, wrong⟩
    refine iff_of_true (heldBack_of_not_wrong held right) ?_
    intro attempt attempted wrong
    exact absurd wrong (right attempt attempted)

end Delays

/-! ## What the counters remember -/

section Memory

variable {runtime : LoginRuntime} {history : AttemptHistory}

/-- The counter of a key holds its consecutive failures, expired or not. -/
def AttemptHistory.Remembered (history : AttemptHistory) : Prop :=
  ∀ key, history.pending key ≠ [] → ∃ entry,
    history.state.site.lockouts.failures key = some entry ∧
      (history.pending key).length ≤ entry.value

theorem rungSeconds_mono {fewer more : Nat} (le : fewer ≤ more) :
    rungSeconds fewer ≤ rungSeconds more := by
  simp only [rungSeconds, lockoutSecondsFor, lockoutLadder, List.foldl_cons, List.foldl_nil]
  grind

/-- A counter within its window counts one failure more. -/
theorem pending_lt_nextCount {key : LockKey} (remembered : history.Remembered)
    (counted : history.pending key ≠ [] →
      history.state.site.lockouts.failures.get history.state.now key ≠ none) :
    (history.pending key).length + 1 ≤
      history.state.site.lockouts.nextCount history.state.now key := by
  rw [Lockouts.nextCount]
  refine Nat.succ_le_succ ?_
  by_cases idle : history.pending key = []
  · rw [idle]
    exact Nat.zero_le _
  · obtain ⟨entry, held, enough⟩ := remembered key idle
    have live := counted idle
    rw [Cache.get, Cache.live, held, Option.filter_some] at live ⊢
    by_cases within : history.state.now < entry.expiresAt
    · rw [if_pos (decide_eq_true within)]
      exact enough
    · rw [if_neg (mt of_decide_eq_true within)] at live
      exact absurd rfl live

theorem reachesRung_of_nothingForgotten {event : LoginEvent} (remembered : history.Remembered)
    (kept : NothingForgotten runtime history event) : ReachesRung runtime history event := by
  intro attempt attempted wrong key concerned
  have counted := kept attempt attempted key concerned
  rw [wrong] at counted
  exact rungSeconds_mono (pending_lt_nextCount remembered counted)

theorem pending_attemptStep {event : LoginEvent} {attempt : Attempt} {key : LockKey}
    (attempted : history.state.attempt? runtime event = some attempt) :
    (attemptStep runtime history event).pending key =
      if key ∈ attempt.keys runtime then
        match attempt.outcome with
        | .wrong => history.pending key ++ [attempt.account runtime]
        | .complete => (history.pending key).filter fun account =>
            account ≠ attempt.account runtime
        | .challenged | .broken => history.pending key
      else history.pending key := by
  rw [attemptStep, attempted, AttemptHistory.note]
  cases attempt.outcome with
  | wrong | complete => rfl
  | challenged | broken => exact (ite_id _).symm

theorem remembered_step {event : LoginEvent} (remembered : history.Remembered)
    (kept : NothingForgotten runtime history event) :
    (attemptStep runtime history event).Remembered := by
  intro key idle
  have left : (attemptStep runtime history event).state.site.lockouts.of key =
      history.state.ofAfter runtime key (history.state.attempt? runtime event) := of_loginStep event
  have counter : (attemptStep runtime history event).state.site.lockouts.failures key =
      (history.state.ofAfter runtime key (history.state.attempt? runtime event)).1 := by
    rw [← left]
    rfl
  rw [counter]
  cases attempted : history.state.attempt? runtime event with
  | none =>
      rw [attemptStep, attempted] at idle ⊢
      exact remembered key idle
  | some attempt =>
      rw [pending_attemptStep attempted] at idle ⊢
      rw [LoginState.ofAfter]
      by_cases concerned : key ∈ attempt.keys runtime
      · have met := kept attempt attempted key concerned
        rw [if_pos concerned] at idle ⊢
        rw [if_pos concerned]
        cases outcome : attempt.outcome with
        | wrong =>
            rw [outcome] at met
            refine ⟨_, rfl, ?_⟩
            dsimp only [Lockouts.of]
            rw [nextCounter_value, List.length_append, List.length_singleton]
            exact pending_lt_nextCount remembered met
        | challenged =>
            rw [outcome] at met idle
            exact absurd met idle
        | complete =>
            rw [outcome] at met idle
            refine absurd (List.filter_eq_nil_iff.mpr fun account listed => ?_) idle
            simpa using met account listed
        | broken =>
            rw [outcome] at idle
            exact remembered key idle
      · rw [if_neg concerned] at idle ⊢
        rw [if_neg concerned]
        exact remembered key idle

theorem eachStep_reachesRung {events : List LoginEvent} (remembered : history.Remembered)
    (kept : EachStep (attemptStep runtime) (NothingForgotten runtime) history events) :
    EachStep (attemptStep runtime) (ReachesRung runtime) history events := by
  induction events generalizing history with
  | nil => trivial
  | cons event rest ih =>
      exact ⟨reachesRung_of_nothingForgotten remembered kept.1,
        ih (remembered_step remembered kept.1) kept.2⟩

end Memory

/-! ## Runs -/

theorem heldBack_fresh (state : LoginState) : (AttemptHistory.fresh state).HeldBack := by
  intro key instant _ blocked
  exact absurd blocked (Nat.not_lt_zero _)

theorem remembered_fresh (state : LoginState) : (AttemptHistory.fresh state).Remembered := by
  intro key idle
  exact absurd rfl idle

section LastRungs

variable {runtime : LoginRuntime} {state : LoginState}

/-- The seconds of all the rungs up to a number of failures. -/
def secondsUpTo : Nat → Nat
  | 0 => 0
  | failures + 1 => secondsUpTo failures + rungSeconds (failures + 1)

/-- The failures that a counter can hold within its window. -/
def mostFailures : Nat := 11

/-- A key is not free again before the delays of all its counted failures, which
follow the opening of its counter. -/
def Spaced (now : Nat) (current : Option (CacheEntry Nat) × Option (CacheEntry Nat)) : Prop :=
  ∀ entry, current.1 = some entry → entry.value ≤ mostFailures ∧
    ∀ instant, now ≤ instant → ¬ Refuses instant current.2 →
      entry.expiresAt + secondsUpTo entry.value * microsecondsPerSecond ≤
        instant + attemptWindowSeconds * microsecondsPerSecond

theorem Spaced.later {current : Option (CacheEntry Nat) × Option (CacheEntry Nat)}
    {now later : Nat} (spaced : Spaced now current) (ordered : now ≤ later) :
    Spaced later current := by
  intro entry counted
  obtain ⟨few, delayed⟩ := spaced entry counted
  exact ⟨few, fun instant after => delayed instant (Nat.le_trans ordered after)⟩

/-- The delays of eleven failures fill the window. -/
theorem lt_mostFailures {failures : Nat} (few : failures ≤ mostFailures)
    (short : secondsUpTo failures < attemptWindowSeconds) : failures < mostFailures := by
  refine Nat.lt_of_le_of_ne few ?_
  rintro rfl
  exact absurd short (by decide)

theorem spaced_countFailure {now : Nat}
    {current : Option (CacheEntry Nat) × Option (CacheEntry Nat)} (spaced : Spaced now current)
    (free : ¬ Refuses now current.2) : Spaced now (countFailure now current) := by
  intro entry counted
  have same : nextCounter now current.1 = entry := Option.some.inj counted
  have delayed {instant : Nat} (after : now ≤ instant)
      (unlocked : ¬ Refuses instant (countFailure now current).2) :
      now + rungSeconds entry.value * microsecondsPerSecond ≤ instant := by
    rw [refuses_countFailure_iff free after, same] at unlocked
    exact Nat.not_lt.mp unlocked
  cases opened : current.1.filter fun entry => now < entry.expiresAt with
  | none =>
      rw [nextCounter, opened] at same
      subst same
      refine ⟨(by decide : 1 ≤ mostFailures), fun instant after _ => ?_⟩
      have idle : secondsUpTo 1 = 0 := by decide
      rw [idle, Nat.zero_mul, Nat.add_zero]
      exact Nat.add_le_add_right after _
  | some counter =>
      obtain ⟨held, live⟩ := Option.filter_eq_some_iff.mp opened
      rw [nextCounter, opened] at same
      subst same
      obtain ⟨few, waited⟩ := spaced counter held
      have spent := waited now (Nat.le_refl _) free
      have within := of_decide_eq_true live
      refine ⟨lt_mostFailures few ?_, fun instant after free => ?_⟩
      · refine Nat.lt_of_mul_lt_mul_right (a := microsecondsPerSecond) ?_
        omega
      · have next := delayed after free
        dsimp only at next ⊢
        rw [secondsUpTo, Nat.add_mul]
        omega

theorem spaced_loginStep (event : LoginEvent) (key : LockKey)
    (spaced : Spaced state.now (state.site.lockouts.of key)) :
    Spaced (loginStep runtime state event).now
      ((loginStep runtime state event).site.lockouts.of key) := by
  refine Spaced.later ?_ (Nat.le_add_right state.now event.elapsed)
  rw [of_loginStep]
  cases attempted : state.attempt? runtime event with
  | none => exact spaced
  | some attempt =>
      rw [LoginState.ofAfter]
      split
      · rename_i concerned
        cases attempt.outcome with
        | wrong => exact spaced_countFailure spaced (free_of_attempt attempted concerned)
        | challenged | complete =>
            intro entry counted
            cases counted
        | broken => exact spaced
      · exact spaced

/-- No counter goes past eleven failures, so the rungs of fifteen and of twenty are
never reached. -/
theorem failures_le_mostFailures (runtime : LoginRuntime) (start : LoginState)
    (empty : start.site.lockouts = .empty) (events : List LoginEvent) :
    Always (loginStep runtime)
      (fun state => ∀ key count, state.site.lockouts.failures.get state.now key = some count →
        count ≤ mostFailures) start events := by
  have spaced : Always (loginStep runtime)
      (fun state => ∀ key, Spaced state.now (state.site.lockouts.of key)) start events := by
    refine always_of_step (fun state event spaced key => spaced_loginStep event key (spaced key))
      (fun key entry counted => ?_) events
    rw [empty] at counted
    cases counted
  refine spaced.imp fun state spaced key count counted => ?_
  obtain ⟨entry, live, rfl⟩ := Option.map_eq_some_iff.mp counted
  exact (spaced key entry (Option.filter_eq_some_iff.mp live).1).1

theorem failures_le_mostFailures_twice :
    Always (loginStep bareLoginRuntime)
      (fun state => ∀ key count, state.site.lockouts.failures.get state.now key = some count →
        count ≤ mostFailures) ⟨oneAccount, 0⟩
      (List.replicate 2 (.login "user@example.com" "wrong" "203.0.113.7" "challenge")) :=
  failures_le_mostFailures bareLoginRuntime _ rfl _

end LastRungs

/-! ## A right password between two codes -/

/-- An account whose second factor is confirmed. -/
def enrolledAccount : LoginSite :=
  { oneAccount with
    credentials := (Table.empty : Table TwoFactorCredential).create
      (fun key =>
        { id := key, user := 0, encryptedSecret := "123456", confirmed := true,
          confirmedAt := some 0 })
      (fun _ => rfl)
    oneToOne := List.pairwise_singleton _ _ }

/-- Whoever knows the password signs in before each wrong code. -/
def guessFiveCodes : List LoginEvent :=
  (List.replicate 5 [
    LoginEvent.login "user@example.com" "Str0ng!Passw0rd123" "203.0.113.7" "challenge",
    .verify "challenge" "000000" "" "203.0.113.7"]).flatten

end RssiService.Accounts
