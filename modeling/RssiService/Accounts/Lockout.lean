import RssiService.Foundation.ExpiringCache
import RssiService.Python.Text

/-!
# Progressive lockout

Failed attempts are counted for the account and, apart, for the address.  A
counter opens with its first failure and expires with the window, and each
threshold it has reached locks for its duration.
-/

namespace RssiService.Accounts

open Foundation Python

/-- What the platform supplies: the character tables, the comparison of texts up
to case, the digest of a text and the hash of a password. -/
structure Runtime where
  unicode : Unicode
  iexact : String → String → Bool
  sha256 : String → String
  makePassword : String → String

/-- A runtime for examples: texts are kept as they are. -/
def bareRuntime : Runtime where
  unicode := ⟨id, id, fun _ => true⟩
  iexact := fun first second => first = second
  sha256 := id
  makePassword := id

def microsecondsPerSecond : Nat := 1000000

def microsecondsPerHour : Nat := 3600000000

/-! ## Keys -/

inductive LockKind where
  | account
  | ip
  deriving DecidableEq, Repr

/-- Neither the address of the account nor that of the client appears in a key. -/
structure LockKey where
  kind : LockKind
  ident : String
  deriving DecidableEq, Repr

def hashedIdent (runtime : Runtime) (ident : String) : String :=
  runtime.sha256 (runtime.unicode.lower (strip ident))

def lockKey (runtime : Runtime) (kind : LockKind) (ident : String) : LockKey :=
  ⟨kind, hashedIdent runtime ident⟩

/-- The keys of an attempt; an empty identifier has none. -/
def attemptKeys (runtime : Runtime) (email ip : String) : List LockKey :=
  ([(.account, email), (.ip, ip)].filter fun pair : LockKind × String => pair.2 ≠ "").map
    fun pair => lockKey runtime pair.1 pair.2

/-! ## The ladder -/

/-- Failures reached, and the seconds they lock for. -/
def lockoutLadder : List (Nat × Nat) := [(5, 60), (10, 5 * 60), (15, 15 * 60), (20, 60 * 60)]

def attemptWindowSeconds : Nat := 15 * 60

/-- The duration of the highest threshold reached. -/
def lockoutSecondsFor (failures : Nat) : Option Nat :=
  lockoutLadder.foldl
    (fun duration (threshold, seconds) => if threshold ≤ failures then some seconds else duration)
    none

/-! ## Counters and locks -/

/-- The failure counters, and the instants until which the keys are locked. -/
structure Lockouts where
  failures : Cache LockKey Nat
  locks : Cache LockKey Nat

def Lockouts.empty : Lockouts := ⟨Cache.empty, Cache.empty⟩

/-- The seconds left to wait for a key that is locked. -/
def Lockouts.retryAfter? (lockouts : Lockouts) (now : Nat) (key : LockKey) : Option Nat :=
  (lockouts.locks.get now key).bind fun lockedUntil =>
    if now < lockedUntil then some (max 1 ((lockedUntil - now) / microsecondsPerSecond)) else none

/-- Asked before a password or a code is looked at. -/
def checkNotLockedOut (runtime : Runtime) (lockouts : Lockouts) (now : Nat) (email ip : String) :
    Except Nat Unit :=
  match (attemptKeys runtime email ip).findSome? (lockouts.retryAfter? now) with
  | some seconds => .error seconds
  | none => .ok ()

/-- Count one failure of a key, and lock it when it has reached a threshold. -/
def Lockouts.recordFailure (now : Nat) (lockouts : Lockouts) (key : LockKey) : Lockouts :=
  let (failures, count) := (lockouts.failures.incr now key).getD
    (lockouts.failures.set now key 1 (attemptWindowSeconds * microsecondsPerSecond), 1)
  match lockoutSecondsFor count with
  | none => { lockouts with failures }
  | some seconds =>
      { failures
        locks := lockouts.locks.set now key (now + seconds * microsecondsPerSecond)
          (seconds * microsecondsPerSecond) }

def recordFailedAttempt (runtime : Runtime) (lockouts : Lockouts) (now : Nat)
    (email ip : String) : Lockouts :=
  (attemptKeys runtime email ip).foldl (Lockouts.recordFailure now) lockouts

def Lockouts.clearKey (lockouts : Lockouts) (key : LockKey) : Lockouts :=
  { failures := lockouts.failures.delete key, locks := lockouts.locks.delete key }

def clearFailedAttempts (runtime : Runtime) (lockouts : Lockouts) (email ip : String) : Lockouts :=
  (attemptKeys runtime email ip).foldl Lockouts.clearKey lockouts

end RssiService.Accounts
