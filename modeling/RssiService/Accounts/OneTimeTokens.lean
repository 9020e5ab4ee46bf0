import RssiService.Accounts.FailedAttempts
import RssiService.Foundation.OneTimeToken
import RssiService.PlatformAdmin.Console

/-!
# One-time tokens under concurrency

A recovery code, a challenge and an access link are read unused by a request and
marked as used in a later write.  Two requests that present one token may both
read it before either marks it.
-/

namespace RssiService.Accounts

open Foundation Foundation.Run Foundation.Interleaving Python

/-! ## Store -/

inductive OneTimeToken where
  | recoveryCode (row : Nat)
  | challenge (token : String)
  | link (row : Nat)
  deriving DecidableEq, Repr

/-- What the requests share, and the tokens accepted so far. -/
structure TokenStore extends LoginSite where
  links : Table AccessInvitation
  accepted : List OneTimeToken

/-- The steps that write.  Counting a failure of a key and locking it are one. -/
inductive TokenWrite where
  | useRecoveryCode (now row : Nat)
  | recordFailure (now : Nat) (key : LockKey)
  | deleteCounter (key : LockKey)
  | deleteLock (key : LockKey)
  | consumeChallenge (token : String)
  | setPassword (user : Nat) (hash : String)
  | useLink (now row : Nat)

def TokenWrite.marks : TokenWrite → Option OneTimeToken
  | .useRecoveryCode _ row => some (.recoveryCode row)
  | .consumeChallenge token => some (.challenge token)
  | .useLink _ row => some (.link row)
  | _ => none

def TokenStore.perform (store : TokenStore) : TokenWrite → TokenStore
  | .useRecoveryCode now row =>
      { store with
        recoveryCodes := store.recoveryCodes.modify row (RecoveryCode.use now)
          (RecoveryCode.ident_use now) }
  | .recordFailure now key => { store with lockouts := store.lockouts.recordFailure now key }
  | .deleteCounter key =>
      { store with
        lockouts := { store.lockouts with failures := store.lockouts.failures.delete key } }
  | .deleteLock key =>
      { store with lockouts := { store.lockouts with locks := store.lockouts.locks.delete key } }
  | .consumeChallenge token => { store with toLoginSite := store.consumeMfaChallenge token }
  | .setPassword user hash =>
      { store with
        users := store.users.modify user (User.withPassword hash) (User.ident_withPassword hash) }
  | .useLink now row =>
      { store with
        links := store.links.modify row (AccessInvitation.use now) (AccessInvitation.ident_use now) }

/-- A token is accepted by the request that marks it. -/
def TokenStore.apply (store : TokenStore) (change : TokenWrite) : TokenStore :=
  { store.perform change with accepted := store.accepted ++ change.marks.toList }

/-! ## Requests -/

abbrev TokenProgram := Program TokenStore TokenWrite

/-- Go on when no key is locked. -/
def checkKeys (now : Nat) (next : TokenProgram) : List LockKey → TokenProgram
  | [] => next
  | key :: rest => .read fun store =>
      if (store.lockouts.retryAfter? now key).isSome then .done else checkKeys now next rest

def recordKeys (now : Nat) : List LockKey → TokenProgram
  | [] => .done
  | key :: rest => .write (.recordFailure now key) (recordKeys now rest)

def clearKeys (next : TokenProgram) : List LockKey → TokenProgram
  | [] => next
  | key :: rest => .write (.deleteCounter key) (.write (.deleteLock key) (clearKeys next rest))

/-- The instants at which a request looks at the clock. -/
structure Clock where
  resolved : Nat
  checked : Nat
  verified : Nat
  marked : Nat

def Clock.still (now : Nat) : Clock := ⟨now, now, now, now⟩

/-- The second factor of an account, then the tokens. -/
def verifyFactor (runtime : LoginRuntime) (clock : Clock) (user : User) (keys : List LockKey)
    (token code recoveryCode : String) : TokenProgram :=
  let admitted := clearKeys (.write (.consumeChallenge token) .done) keys
  let refuse := recordKeys clock.marked keys
  .read fun store =>
    match store.checkTotp runtime clock.verified user code with
    | .error _ => .done
    | .ok true => admitted
    | .ok false =>
        if recoveryCode = "" then refuse
        else
          .read fun store =>
            match store.matchingRecoveryCode runtime user recoveryCode with
            | none => refuse
            | some row => .write (.useRecoveryCode clock.marked row.id) admitted

def verifyProgram (runtime : LoginRuntime) (clock : Clock) (token code recoveryCode ip : String) :
    TokenProgram :=
  if code = "" ∧ recoveryCode = "" then .done
  else
    .read fun store =>
      match store.challenges.get clock.resolved token with
      | none => .done
      | some key =>
          .read fun store =>
            match store.users.find? key with
            | none => .done
            | some user =>
                let keys := attemptKeys runtime.toRuntime user.email ip
                checkKeys clock.checked
                  (verifyFactor runtime clock user keys token code recoveryCode) keys

/-- The link and its account are read together; the account is written first. -/
def acceptProgram (runtime : LoginRuntime) (clock : Clock) (rawToken newPassword : String) :
    TokenProgram :=
  .read fun store =>
    match (resolveLink runtime.toRuntime clock.resolved store.links rawToken).bind fun link =>
        (store.users.find? link.user).map fun user => (link, user) with
    | none => .done
    | some (link, user) =>
        .write (.setPassword user.id (runtime.makePassword newPassword))
          (.write (.useLink clock.marked link.id)
            (clearKeys .done (attemptKeys runtime.toRuntime user.email "")))

inductive TokenRequest where
  | verify (clock : Clock) (token code recoveryCode ip : String)
  | accept (clock : Clock) (rawToken newPassword : String)

def TokenRequest.program (runtime : LoginRuntime) : TokenRequest → TokenProgram
  | .verify clock token code recoveryCode ip =>
      verifyProgram runtime clock token code recoveryCode ip
  | .accept clock rawToken newPassword => acceptProgram runtime clock rawToken newPassword

def TokenStore.fresh (site : LoginSite) (links : Table AccessInvitation) : TokenStore :=
  ⟨site, links, []⟩

/-- The store after requests that follow one another. -/
def TokenStore.afterEach (runtime : LoginRuntime) (store : TokenStore)
    (requests : List TokenRequest) : TokenStore :=
  requests.foldl (fun store request => (request.program runtime).alone TokenStore.apply store) store

/-! ## The register of the tokens -/

/-- A row that is gone, or marked, is spent; so is a challenge that is no longer in
the cache. -/
def TokenStore.Spent (store : TokenStore) : OneTimeToken → Prop
  | .recoveryCode key => ∀ row ∈ store.recoveryCodes, row.id = key → row.usedAt ≠ none
  | .challenge token => store.challenges token = none
  | .link key => ∀ row ∈ store.links, row.id = key → row.usedAt ≠ none

theorem spent_apply (store : TokenStore) (change : TokenWrite) (token : OneTimeToken) :
    (store.apply change).Spent token ↔ store.Spent token ∨ change.marks = some token := by
  have kept (same : (store.apply change).Spent token ↔ store.Spent token)
      (other : change.marks ≠ some token) :
      (store.apply change).Spent token ↔ store.Spent token ∨ change.marks = some token :=
    same.trans (or_iff_left other).symm
  cases change with
  | recordFailure now key => cases token <;> exact kept Iff.rfl (by rintro ⟨⟩)
  | deleteCounter key => cases token <;> exact kept Iff.rfl (by rintro ⟨⟩)
  | deleteLock key => cases token <;> exact kept Iff.rfl (by rintro ⟨⟩)
  | setPassword user hash => cases token <;> exact kept Iff.rfl (by rintro ⟨⟩)
  | useRecoveryCode now row =>
      cases token with
      | recoveryCode key =>
          rw [TokenWrite.marks, Option.some.injEq, OneTimeToken.recoveryCode.injEq, TokenStore.Spent,
            TokenStore.Spent, TokenStore.apply, TokenStore.perform]
          dsimp only
          refine Table.forall_mem_modify_iff (P := fun row : RecoveryCode => row.usedAt ≠ none) ?_
          rintro row ⟨⟩
      | challenge token => exact kept Iff.rfl (by rintro ⟨⟩)
      | link key => exact kept Iff.rfl (by rintro ⟨⟩)
  | useLink now row =>
      cases token with
      | link key =>
          rw [TokenWrite.marks, Option.some.injEq, OneTimeToken.link.injEq, TokenStore.Spent,
            TokenStore.Spent, TokenStore.apply, TokenStore.perform]
          dsimp only
          refine Table.forall_mem_modify_iff (P := fun row : AccessInvitation => row.usedAt ≠ none) ?_
          rintro row ⟨⟩
      | challenge token => exact kept Iff.rfl (by rintro ⟨⟩)
      | recoveryCode key => exact kept Iff.rfl (by rintro ⟨⟩)
  | consumeChallenge used =>
      cases token with
      | challenge other =>
          rw [TokenWrite.marks, Option.some.injEq, OneTimeToken.challenge.injEq]
          have after : (store.apply (.consumeChallenge used)).challenges other =
              if other = used then none else store.challenges other :=
            Cache.delete_apply store.challenges used other
          rw [TokenStore.Spent, TokenStore.Spent, after]
          by_cases same : other = used
          · rw [if_pos same]
            exact iff_of_true rfl (Or.inr same.symm)
          · rw [if_neg same]
            exact (or_iff_left (Ne.symm same)).symm
      | link key => exact kept Iff.rfl (by rintro ⟨⟩)
      | recoveryCode key => exact kept Iff.rfl (by rintro ⟨⟩)

def tokenRegister : TokenRegister OneTimeToken TokenStore.apply where
  marks := TokenWrite.marks
  Spent := TokenStore.Spent
  marked := TokenStore.accepted
  spent_apply := spent_apply
  marked_apply := fun _ _ => rfl

/-! ## What the requests mark -/

section Careful

variable {runtime : LoginRuntime} {clock : Clock} {Known : OneTimeToken → Prop}

theorem marks_checkKeys {now : Nat} {next : TokenProgram} (marks : tokenRegister.Marks next Known)
    (keys : List LockKey) : tokenRegister.Marks (checkKeys now next keys) Known := by
  induction keys with
  | nil => exact marks
  | cons key rest ih =>
      refine .read fun store => ?_
      split
      · trivial
      · exact ih

theorem marks_recordKeys {now : Nat} (keys : List LockKey) :
    tokenRegister.Marks (recordKeys now keys) Known := by
  induction keys with
  | nil => trivial
  | cons key rest ih => exact .write_of_none rfl ih

theorem marks_clearKeys {next : TokenProgram} (marks : tokenRegister.Marks next Known)
    (keys : List LockKey) : tokenRegister.Marks (clearKeys next keys) Known := by
  induction keys with
  | nil => exact marks
  | cons key rest ih => exact .write_of_none rfl (.write_of_none rfl ih)

/-- The challenge is known, and a recovery code is read unused. -/
theorem marks_verifyFactor {user : User} {keys : List LockKey} {token code recoveryCode : String}
    (known : Known (.challenge token)) :
    tokenRegister.Marks (verifyFactor runtime clock user keys token code recoveryCode) Known := by
  have admitted {Known : OneTimeToken → Prop} (known : Known (.challenge token)) :
      tokenRegister.Marks (clearKeys (.write (.consumeChallenge token) .done) keys) Known :=
    marks_clearKeys (.write_of_some rfl known .done) keys
  rw [verifyFactor]
  refine .read fun store => ?_
  split
  · trivial
  · exact admitted known
  · split
    · exact marks_recordKeys keys
    · intro store
      dsimp only
      split
      · exact marks_recordKeys keys
      · rename_i row found
        obtain ⟨inside, _, unused, _⟩ := matchingRecoveryCode_eq_some found
        have unspent : ¬ store.Spent (.recoveryCode row.id) :=
          fun spent => spent row inside rfl unused
        refine .write_of_some rfl (Or.inr unspent) (admitted ⟨Or.inl known, ?_⟩)
        rintro ⟨⟩

theorem marks_verifyProgram {token code recoveryCode ip : String} :
    tokenRegister.Marks (verifyProgram runtime clock token code recoveryCode ip)
      fun _ => False := by
  rw [verifyProgram]
  split
  · trivial
  · intro store
    dsimp only
    split
    · trivial
    · rename_i key resolved
      have unspent : ¬ store.Spent (.challenge token) := by
        intro absent
        rw [Cache.get, Cache.live, absent] at resolved
        cases resolved
      refine .read fun _ => ?_
      split
      · trivial
      · exact marks_checkKeys (marks_verifyFactor (Or.inr unspent)) _

theorem marks_acceptProgram {rawToken newPassword : String} :
    tokenRegister.Marks (acceptProgram runtime clock rawToken newPassword) fun _ => False := by
  intro store
  dsimp only
  split
  · trivial
  · rename_i link user both
    obtain ⟨found, resolved, paired⟩ := Option.bind_eq_some_iff.mp both
    obtain ⟨owner, _, same⟩ := Option.map_eq_some_iff.mp paired
    cases same
    obtain ⟨inside, _, usable⟩ := resolveLink_eq_some resolved
    have unused : link.usedAt = none :=
      Option.isNone_iff_eq_none.mp (Bool.and_eq_true_iff.mp usable).1
    have unspent : ¬ store.Spent (.link link.id) := fun spent => spent link inside rfl unused
    exact .write_of_none rfl (.write_of_some rfl (Or.inr unspent) (marks_clearKeys .done _))

theorem careful (request : TokenRequest) :
    tokenRegister.Marks (request.program runtime) fun _ => False := by
  cases request with
  | verify clock token code recoveryCode ip => exact marks_verifyProgram
  | accept clock rawToken newPassword => exact marks_acceptProgram

end Careful

/-! ## A request run alone -/

section Alone

variable {runtime : LoginRuntime} {now : Nat} {store : TokenStore} {next : TokenProgram}

theorem alone_read {look : TokenStore → TokenProgram} :
    (Program.read look).alone TokenStore.apply store = (look store).alone TokenStore.apply store :=
  rfl

theorem alone_checkKeys (keys : List LockKey) :
    (checkKeys now next keys).alone TokenStore.apply store =
      match keys.findSome? (store.lockouts.retryAfter? now) with
      | some _ => store
      | none => next.alone TokenStore.apply store := by
  induction keys with
  | nil => rfl
  | cons key rest ih =>
      rw [checkKeys, alone_read, List.findSome?_cons]
      cases store.lockouts.retryAfter? now key with
      | none => exact ih
      | some seconds => rfl

theorem alone_recordKeys (keys : List LockKey) :
    ((recordKeys now keys).alone TokenStore.apply store).toLoginSite =
      { store.toLoginSite with
        lockouts := keys.foldl (Lockouts.recordFailure now) store.lockouts } := by
  induction keys generalizing store with
  | nil => rfl
  | cons key rest ih =>
      rw [recordKeys, Program.alone_write, ih]
      rfl

theorem alone_clearKeys (keys : List LockKey) :
    (clearKeys next keys).alone TokenStore.apply store =
      next.alone TokenStore.apply
        { store with lockouts := keys.foldl Lockouts.clearKey store.lockouts } := by
  induction keys generalizing store with
  | nil => rfl
  | cons key rest ih =>
      rw [clearKeys, Program.alone_write, Program.alone_write, ih]
      simp [TokenStore.apply, TokenStore.perform, TokenWrite.marks, Lockouts.clearKey]

/-- Run alone, the second factor is checked as the view does in one step. -/
theorem alone_verifyFactor {user : User} {token code recoveryCode : String} (ip : String) :
    ((verifyFactor runtime (.still now) user (attemptKeys runtime.toRuntime user.email ip) token
        code recoveryCode).alone TokenStore.apply store).toLoginSite =
      match store.verifySecondFactor runtime now user code recoveryCode with
      | .error _ => store.toLoginSite
      | .ok none => store.toLoginSite.recordFailure runtime now user.email ip
      | .ok (some after) => (after.clearFailures runtime user.email ip).consumeMfaChallenge token := by
  rw [verifyFactor, alone_read, LoginSite.verifySecondFactor, Clock.still]
  dsimp only
  cases store.checkTotp runtime now user code with
  | error error => rfl
  | ok verified =>
      cases verified with
      | true =>
          dsimp only [Except.map]
          rw [alone_clearKeys]
          rfl
      | false =>
          dsimp only [Except.map]
          rw [LoginSite.consumeRecoveryCode]
          by_cases given : recoveryCode = ""
          · rw [if_pos given, if_pos given]
            exact alone_recordKeys _
          · rw [if_neg given, if_neg given, alone_read]
            cases store.matchingRecoveryCode runtime user recoveryCode with
            | none => exact alone_recordKeys _
            | some row =>
                dsimp only [Option.map_some]
                rw [Program.alone_write, alone_clearKeys]
                rfl

/-- Run alone, a verification does what the view does. -/
theorem alone_verifyProgram {token code recoveryCode ip : String} :
    ((verifyProgram runtime (.still now) token code recoveryCode ip).alone TokenStore.apply
        store).toLoginSite =
      (twoFactorVerifyView runtime now store.toLoginSite token code recoveryCode ip).1 := by
  rw [verifyProgram, twoFactorVerifyView, LoginSite.resolveMfaChallenge]
  split
  · rfl
  · rw [alone_read, Clock.still]
    dsimp only
    cases store.challenges.get now token with
    | none => rfl
    | some key =>
        dsimp only [Option.bind_some]
        rw [alone_read]
        cases store.users.find? key with
        | none => rfl
        | some user =>
            dsimp only
            rw [alone_checkKeys, checkNotLockedOut]
            cases (attemptKeys runtime.toRuntime user.email ip).findSome?
                (store.lockouts.retryAfter? now) with
            | some seconds => rfl
            | none =>
                refine (alone_verifyFactor ip).trans ?_
                cases store.verifySecondFactor runtime now user code recoveryCode with
                | error error => rfl
                | ok verified => cases verified <;> rfl

/-- Run alone, an acceptance does what the operation does. -/
theorem alone_acceptProgram {rawToken newPassword : String} (console : PlatformAdmin.Console)
    (users : console.users = store.users) (links : console.links = store.links)
    (lockouts : console.lockouts = store.lockouts) :
    let after := (acceptProgram runtime (.still now) rawToken newPassword).alone
      TokenStore.apply store
    match PlatformAdmin.acceptAccessInvitation runtime.toRuntime now console rawToken newPassword with
    | .error _ => after = store
    | .ok accepted => after.users = accepted.1.users ∧ after.links = accepted.1.links ∧
        after.lockouts = accepted.1.lockouts := by
  rw [acceptProgram, alone_read, Clock.still, PlatformAdmin.acceptAccessInvitation,
    PlatformAdmin.resolveAccessInvitation, users, links]
  dsimp only
  cases (resolveLink runtime.toRuntime now store.links rawToken).bind fun link =>
      (store.users.find? link.user).map fun user => (link, user) with
  | none => rfl
  | some both =>
      obtain ⟨link, user⟩ := both
      dsimp only
      rw [Program.alone_write, Program.alone_write, alone_clearKeys, lockouts]
      exact ⟨rfl, rfl, rfl⟩

end Alone

/-! ## Whole schedules -/

/-- Over every schedule, each code, challenge and link is accepted once at most exactly
where each acceptance still finds its token unspent.  It does when the requests
follow one another. -/
theorem accepted_once_iff (runtime : LoginRuntime) (site : LoginSite)
    (links : Table AccessInvitation) (moments : List (Moment TokenRequest))
    (requests : List TokenRequest) :
    (Always (Interleaving.step TokenStore.apply (TokenRequest.program runtime))
        (fun session => session.state.accepted.Nodup) (.start (.fresh site links)) moments ↔
      EachStep (Interleaving.step TokenStore.apply (TokenRequest.program runtime))
        (WriteMeets tokenRegister.FindsUnspent) (.start (.fresh site links)) moments) ∧
    ((TokenStore.fresh site links).afterEach runtime requests).accepted.Nodup := by
  have fresh : tokenRegister.marked (TokenStore.fresh site links) = [] := rfl
  exact ⟨TokenRegister.nodup_marked_iff careful fresh moments,
    TokenRegister.nodup_marked_of_sequence careful fresh requests⟩

/-! ## Two requests with the same tokens -/

/-- The account has a recovery code, and a challenge is open. -/
def challengedAccount : LoginSite :=
  { enrolledAccount with
    recoveryCodes := (Table.empty : Table RecoveryCode).create
      (fun key => { id := key, user := 0, codeHash := "ABCD-0123", usedAt := none }) (fun _ => rfl)
    challenges := enrolledAccount.challenges.set 0 "challenge" 0
      (mfaChallengeTtlSeconds * microsecondsPerSecond) }

def resetLink : Table AccessInvitation :=
  (Table.empty : Table AccessInvitation).create
    (fun key =>
      { id := key
        user := 0
        purpose := .reset
        tokenHash := "jeton"
        expiresAt := resetTtlHours * microsecondsPerHour
        usedAt := none
        createdBy := none
        createdAt := 0 })
    (fun _ => rfl)

/-- Two requests take their steps in turn. -/
def inLockstep (request : TokenRequest) (steps : Nat) : List (Moment TokenRequest) :=
  [.arrive 0 request, .arrive 1 request] ++
    (List.replicate steps [.advance 0, .advance 1]).flatten

/-- A code, a challenge and a link are each accepted twice. -/
theorem accepted_twice :
    ¬ Always (Interleaving.step TokenStore.apply (TokenRequest.program bareLoginRuntime))
        (fun session => session.state.accepted.Nodup)
        (.start (.fresh challengedAccount resetLink))
        (inLockstep (.verify (.still 0) "challenge" "" "ABCD-0123" "203.0.113.7") 12) ∧
      (after (Interleaving.step TokenStore.apply (TokenRequest.program bareLoginRuntime))
        (.start (.fresh challengedAccount resetLink))
        (inLockstep (.verify (.still 0) "challenge" "" "ABCD-0123" "203.0.113.7") 12 ++
          inLockstep (.accept (.still 0) "jeton" "secret") 5)).state.accepted =
        [.recoveryCode 0, .recoveryCode 0, .challenge "challenge", .challenge "challenge",
          .link 0, .link 0] := by
  refine ⟨fun always => ?_, by decide +kernel⟩
  exact absurd always.last (by decide +kernel)

end RssiService.Accounts
