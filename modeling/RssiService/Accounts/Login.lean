import RssiService.Accounts.Identity
import RssiService.Foundation.Outcome

/-!
# Signing in

A password opens the session of an account without second factor.  Where a
second factor is confirmed, the password yields a challenge that lives for a few
minutes, and a one-time code or a recovery code exchanges it for the tokens.
-/

namespace RssiService.Accounts

open Foundation Python

/-! ## State -/

/-- The second factor of an account, its secret encrypted at rest.  It is not in
force before it is confirmed. -/
structure TwoFactorCredential where
  id : Nat
  user : Nat
  encryptedSecret : String
  confirmed : Bool
  confirmedAt : Option Nat
  deriving DecidableEq, Repr

instance : Identified TwoFactorCredential := ⟨TwoFactorCredential.id⟩

structure RecoveryCode where
  id : Nat
  user : Nat
  codeHash : String
  usedAt : Option Nat
  deriving DecidableEq, Repr

instance : Identified RecoveryCode := ⟨RecoveryCode.id⟩

/-- What signing in reads and writes.  An account has one credential at most. -/
structure LoginSite where
  users : Table User
  credentials : Table TwoFactorCredential
  recoveryCodes : Table RecoveryCode
  challenges : Cache String Nat
  lockouts : Lockouts
  oneToOne : credentials.rows.Pairwise fun first second => first.user ≠ second.user

inductive AccountsError where
  | refused (message : String)
  deriving DecidableEq, Repr

/-- The secrets are read with the configured key, and the one-time codes are those
of the instant.  The package of the tokens may refuse an account. -/
structure LoginRuntime extends Runtime where
  checkPassword : String → String → Bool
  encryptSecret : String → Except AccountsError String
  decryptSecret : String → Except AccountsError String
  verifyTotp : Nat → String → String → Bool
  tokenRefusal : User → Option String

/-! ## Second factor -/

def LoginSite.isTotpEnabled (site : LoginSite) (user : Nat) : Bool :=
  site.credentials.rows.any fun row => row.user = user && row.confirmed

def LoginSite.getConfirmedCredential (site : LoginSite) (user : Nat) :
    Option TwoFactorCredential :=
  site.credentials.rows.find? fun row => row.user = user && row.confirmed

/-- `update_or_create` of the credential of an account, not confirmed. -/
def LoginSite.writeEnrollment (site : LoginSite) (user : Nat) (encryptedSecret : String) :
    LoginSite :=
  { site with
    credentials := site.credentials.updateOrCreate (fun row => row.user = user)
      (fun row => { row with encryptedSecret, confirmed := false, confirmedAt := none })
      (fun _ => rfl)
      (fun key => { id := key, user, encryptedSecret, confirmed := false, confirmedAt := none })
      (fun _ => rfl)
    oneToOne := Table.unique_updateOrCreate (fun _ => decide_eq_true_iff) (fun _ => rfl)
      (fun _ => rfl) site.oneToOne }

/-- Store a fresh secret, not confirmed. -/
def startTotpEnrollment (runtime : LoginRuntime) (site : LoginSite) (user : User)
    (secret : String) : Except AccountsError LoginSite :=
  (runtime.encryptSecret secret).map (site.writeEnrollment user.id)

def verifyTotpCode (runtime : LoginRuntime) (now : Nat) (credential : TwoFactorCredential)
    (code : String) : Except AccountsError Bool :=
  if code = "" then .ok false
  else
    (runtime.decryptSecret credential.encryptedSecret).map fun secret =>
      runtime.verifyTotp now secret code

/-- Replace the recovery codes of an account. -/
def LoginSite.generateRecoveryCodes (runtime : LoginRuntime) (site : LoginSite) (user : User)
    (draw : Nat → String) (count : Nat) : LoginSite :=
  { site with
    recoveryCodes := (site.recoveryCodes.deleteWhere fun row => row.user = user.id).createAll
      (fun code key =>
        { id := key, user := user.id, codeHash := runtime.makePassword code, usedAt := none })
      (fun _ _ => rfl) ((List.range count).map draw) }

def LoginSite.confirm (now : Nat) (site : LoginSite) (credential : TwoFactorCredential) :
    LoginSite :=
  { site with
    credentials := site.credentials.modify credential.id
      (fun row => { row with confirmed := true, confirmedAt := some now }) (fun _ => rfl)
    oneToOne := by
      refine List.pairwise_map.mpr (site.oneToOne.imp fun {first second} apart => ?_)
      split <;> split <;> exact apart }

def recoveryCodeCount : Nat := 10

def confirmTotpEnrollment (runtime : LoginRuntime) (now : Nat) (site : LoginSite) (user : User)
    (code : String) (draw : Nat → String) : Except AccountsError LoginSite :=
  match site.credentials.rows.find? fun row => row.user = user.id && !row.confirmed with
  | none => .error (.refused "Aucun enrôlement 2FA en attente de confirmation.")
  | some credential =>
      match verifyTotpCode runtime now credential code with
      | .error error => .error error
      | .ok false => .error (.refused "Code invalide.")
      | .ok true =>
          .ok ((site.confirm now credential).generateRecoveryCodes runtime user draw
            recoveryCodeCount)

def LoginSite.disableTotp (site : LoginSite) (user : User) : LoginSite :=
  { site with
    credentials := site.credentials.deleteWhere fun row => row.user = user.id
    recoveryCodes := site.recoveryCodes.deleteWhere fun row => row.user = user.id
    oneToOne := site.oneToOne.filter _ }

/-- The first unused code that matches. -/
def LoginSite.matchingRecoveryCode (runtime : LoginRuntime) (site : LoginSite) (user : User)
    (code : String) : Option RecoveryCode :=
  site.recoveryCodes.rows.find? fun row =>
    row.user = user.id && row.usedAt.isNone && runtime.checkPassword code row.codeHash

def RecoveryCode.use (now : Nat) (row : RecoveryCode) : RecoveryCode :=
  { row with usedAt := some now }

theorem RecoveryCode.ident_use (now : Nat) (row : RecoveryCode) : ident (row.use now) = ident row :=
  rfl

/-- Mark the first code that matches as used; `none` when none does. -/
def LoginSite.consumeRecoveryCode (runtime : LoginRuntime) (now : Nat) (site : LoginSite)
    (user : User) (code : String) : Option LoginSite :=
  if code = "" then none
  else
    (site.matchingRecoveryCode runtime user code).map fun row =>
      { site with
        recoveryCodes := site.recoveryCodes.modify row.id (RecoveryCode.use now) (fun _ => rfl) }

/-! ## Challenges -/

def mfaChallengeTtlSeconds : Nat := 5 * 60

def LoginSite.createMfaChallenge (now : Nat) (site : LoginSite) (user : User) (token : String) :
    LoginSite :=
  { site with
    challenges := site.challenges.set now token user.id
      (mfaChallengeTtlSeconds * microsecondsPerSecond) }

def LoginSite.resolveMfaChallenge (now : Nat) (site : LoginSite) (token : String) : Option User :=
  (site.challenges.get now token).bind site.users.find?

def LoginSite.consumeMfaChallenge (site : LoginSite) (token : String) : LoginSite :=
  { site with challenges := site.challenges.delete token }

/-! ## Requests -/

/-- What a request is answered; `failed` is an exception that nothing catches. -/
inductive LoginAnswer where
  | unauthenticated
  | refused (status : Nat) (detail : String)
  | mfaRequired (challengeToken : String)
  | tokens (user : Nat)
  | done
  | failed
  deriving DecidableEq, Repr

def genericAuthError : String := "Identifiants invalides."

def lockoutError : String := "Trop de tentatives. Réessayez plus tard."

/-- The address is compared exactly, and an account that is not active is refused. -/
def authenticate (runtime : LoginRuntime) (site : LoginSite) (email password : String) :
    Option User :=
  (site.users.rows.find? fun row => row.email = email).filter fun user =>
    user.password.any (runtime.checkPassword password) && user.isActive

def tokensForUser (runtime : LoginRuntime) (user : User) : LoginAnswer :=
  match runtime.tokenRefusal user with
  | some detail => .refused 401 detail
  | none => .tokens user.id

def LoginSite.recordFailure (runtime : LoginRuntime) (now : Nat) (email ip : String)
    (site : LoginSite) : LoginSite :=
  { site with lockouts := recordFailedAttempt runtime.toRuntime site.lockouts now email ip }

def LoginSite.clearFailures (runtime : LoginRuntime) (email ip : String) (site : LoginSite) :
    LoginSite :=
  { site with lockouts := clearFailedAttempts runtime.toRuntime site.lockouts email ip }

/-- What follows a password that is right. -/
def LoginSite.secondStep (runtime : LoginRuntime) (now : Nat) (site : LoginSite) (user : User)
    (token : String) : LoginSite × LoginAnswer :=
  if site.isTotpEnabled user.id then (site.createMfaChallenge now user token, .mfaRequired token)
  else (site, tokensForUser runtime user)

/-- The token is the one drawn for a challenge. -/
def loginView (runtime : LoginRuntime) (now : Nat) (site : LoginSite)
    (email password ip token : String) : LoginSite × LoginAnswer :=
  match checkNotLockedOut runtime.toRuntime site.lockouts now email ip with
  | .error _ => (site, .refused 429 lockoutError)
  | .ok () =>
      match authenticate runtime site email password with
      | none => (site.recordFailure runtime now email ip, .refused 401 genericAuthError)
      | some user => (site.clearFailures runtime email ip).secondStep runtime now user token

/-- The one-time code is that of the confirmed secret. -/
def LoginSite.checkTotp (runtime : LoginRuntime) (now : Nat) (site : LoginSite) (user : User)
    (code : String) : Except AccountsError Bool :=
  match site.getConfirmedCredential user.id with
  | none => .ok false
  | some credential => verifyTotpCode runtime now credential code

/-- The one-time code is tried first, then the recovery code. -/
def LoginSite.verifySecondFactor (runtime : LoginRuntime) (now : Nat) (site : LoginSite)
    (user : User) (code recoveryCode : String) : Except AccountsError (Option LoginSite) :=
  (site.checkTotp runtime now user code).map fun verified =>
    if verified then some site else site.consumeRecoveryCode runtime now user recoveryCode

/-- The tokens replace the challenge, which is used once. -/
def twoFactorVerifyView (runtime : LoginRuntime) (now : Nat) (site : LoginSite)
    (token code recoveryCode ip : String) : LoginSite × LoginAnswer :=
  if code = "" ∧ recoveryCode = "" then
    (site, .refused 400 "Fournissez un code de vérification ou de récupération.")
  else
    match site.resolveMfaChallenge now token with
    | none => (site, .refused 401 "Session de connexion expirée, reconnectez-vous.")
    | some user =>
        match checkNotLockedOut runtime.toRuntime site.lockouts now user.email ip with
        | .error _ => (site, .refused 429 lockoutError)
        | .ok () =>
            match site.verifySecondFactor runtime now user code recoveryCode with
            | .error _ => (site, .failed)
            | .ok none =>
                (site.recordFailure runtime now user.email ip, .refused 401 "Code invalide.")
            | .ok (some after) =>
                ((after.clearFailures runtime user.email ip).consumeMfaChallenge token,
                  tokensForUser runtime user)

def twoFactorSetupView (runtime : LoginRuntime) (site : LoginSite) (user : User)
    (secret : String) : LoginSite × LoginAnswer :=
  match startTotpEnrollment runtime site user secret with
  | .error _ => (site, .failed)
  | .ok after => (after, .done)

def twoFactorConfirmView (runtime : LoginRuntime) (now : Nat) (site : LoginSite) (user : User)
    (code : String) (draw : Nat → String) : LoginSite × LoginAnswer :=
  match confirmTotpEnrollment runtime now site user code draw with
  | .error (.refused detail) => (site, .refused 400 detail)
  | .ok after => (after, .done)

/-- The current password is asked, a session is not enough. -/
def twoFactorDisableView (runtime : LoginRuntime) (site : LoginSite) (user : User)
    (password : String) : LoginSite × LoginAnswer :=
  if user.password.any (runtime.checkPassword password) then (site.disableTotp user, .done)
  else (site, .refused 400 "Mot de passe incorrect.")

/-! ## What a request does -/

section Outcomes

variable {runtime : LoginRuntime} {now : Nat} {site : LoginSite}

theorem authenticate_eq_some {email password : String} {user : User}
    (passed : authenticate runtime site email password = some user) :
    user ∈ site.users ∧ user.email = email ∧ user.isActive = true := by
  obtain ⟨found, allowed⟩ := Option.filter_eq_some_iff.mp passed
  have selected := List.find?_some found
  exact ⟨List.mem_of_find?_eq_some found, of_decide_eq_true selected,
    (Bool.and_eq_true_iff.mp allowed).2⟩

/-- The ways of a login. -/
inductive LoginCourse (runtime : LoginRuntime) (now : Nat) (site : LoginSite)
    (email password ip token : String) : LoginSite × LoginAnswer → Prop
  | locked (seconds : Nat)
      (held : checkNotLockedOut runtime.toRuntime site.lockouts now email ip = .error seconds) :
      LoginCourse runtime now site email password ip token (site, .refused 429 lockoutError)
  | wrong (free : checkNotLockedOut runtime.toRuntime site.lockouts now email ip = .ok ())
      (rejected : authenticate runtime site email password = none) :
      LoginCourse runtime now site email password ip token
        (site.recordFailure runtime now email ip, .refused 401 genericAuthError)
  | challenged (user : User)
      (free : checkNotLockedOut runtime.toRuntime site.lockouts now email ip = .ok ())
      (passed : authenticate runtime site email password = some user)
      (enabled : site.isTotpEnabled user.id = true) :
      LoginCourse runtime now site email password ip token
        ((site.clearFailures runtime email ip).createMfaChallenge now user token,
          .mfaRequired token)
  | admitted (user : User)
      (free : checkNotLockedOut runtime.toRuntime site.lockouts now email ip = .ok ())
      (passed : authenticate runtime site email password = some user)
      (disabled : site.isTotpEnabled user.id = false) :
      LoginCourse runtime now site email password ip token
        (site.clearFailures runtime email ip, tokensForUser runtime user)

theorem loginView_course (runtime : LoginRuntime) (now : Nat) (site : LoginSite)
    (email password ip token : String) :
    LoginCourse runtime now site email password ip token
      (loginView runtime now site email password ip token) := by
  rw [loginView]
  split
  · rename_i seconds held
    exact .locked seconds held
  · rename_i free
    split
    · rename_i rejected
      exact .wrong free rejected
    · rename_i user passed
      rw [LoginSite.secondStep]
      split
      · rename_i enabled
        exact .challenged user free passed enabled
      · rename_i disabled
        exact .admitted user free passed (Bool.eq_false_iff.mpr disabled)

/-- The ways of a verification. -/
inductive VerifyCourse (runtime : LoginRuntime) (now : Nat) (site : LoginSite)
    (token code recoveryCode ip : String) : LoginSite × LoginAnswer → Prop
  | unread (status : Nat) (detail : String)
      (absent : (code = "" ∧ recoveryCode = "") ∨ site.resolveMfaChallenge now token = none) :
      VerifyCourse runtime now site token code recoveryCode ip (site, .refused status detail)
  | locked (user : User) (seconds : Nat)
      (resolved : site.resolveMfaChallenge now token = some user)
      (held : checkNotLockedOut runtime.toRuntime site.lockouts now user.email ip =
        .error seconds) :
      VerifyCourse runtime now site token code recoveryCode ip (site, .refused 429 lockoutError)
  | failed (user : User) (given : ¬ (code = "" ∧ recoveryCode = ""))
      (resolved : site.resolveMfaChallenge now token = some user)
      (free : checkNotLockedOut runtime.toRuntime site.lockouts now user.email ip = .ok ())
      (error : AccountsError)
      (rejected : site.verifySecondFactor runtime now user code recoveryCode = .error error) :
      VerifyCourse runtime now site token code recoveryCode ip (site, .failed)
  | wrong (user : User) (given : ¬ (code = "" ∧ recoveryCode = ""))
      (resolved : site.resolveMfaChallenge now token = some user)
      (free : checkNotLockedOut runtime.toRuntime site.lockouts now user.email ip = .ok ())
      (rejected : site.verifySecondFactor runtime now user code recoveryCode = .ok none) :
      VerifyCourse runtime now site token code recoveryCode ip
        (site.recordFailure runtime now user.email ip, .refused 401 "Code invalide.")
  | verified (user : User) (after : LoginSite) (given : ¬ (code = "" ∧ recoveryCode = ""))
      (resolved : site.resolveMfaChallenge now token = some user)
      (free : checkNotLockedOut runtime.toRuntime site.lockouts now user.email ip = .ok ())
      (passed : site.verifySecondFactor runtime now user code recoveryCode = .ok (some after)) :
      VerifyCourse runtime now site token code recoveryCode ip
        ((after.clearFailures runtime user.email ip).consumeMfaChallenge token,
          tokensForUser runtime user)

theorem twoFactorVerifyView_course (runtime : LoginRuntime) (now : Nat) (site : LoginSite)
    (token code recoveryCode ip : String) :
    VerifyCourse runtime now site token code recoveryCode ip
      (twoFactorVerifyView runtime now site token code recoveryCode ip) := by
  rw [twoFactorVerifyView]
  split
  · rename_i absent
    exact .unread _ _ (Or.inl absent)
  · rename_i given
    split
    · rename_i absent
      exact .unread _ _ (Or.inr absent)
    · rename_i user resolved
      split
      · rename_i seconds held
        exact .locked user seconds resolved held
      · rename_i free
        split
        · rename_i error rejected
          exact .failed user given resolved free error rejected
        · rename_i rejected
          exact .wrong user given resolved free rejected
        · rename_i after passed
          exact .verified user after given resolved free passed

theorem matchingRecoveryCode_eq_some {user : User} {code : String} {row : RecoveryCode}
    (found : site.matchingRecoveryCode runtime user code = some row) :
    row ∈ site.recoveryCodes ∧ row.user = user.id ∧ row.usedAt = none ∧
      runtime.checkPassword code row.codeHash = true := by
  have selected := List.find?_some found
  simp only [Bool.and_eq_true, decide_eq_true_eq, Option.isNone_iff_eq_none] at selected
  exact ⟨List.mem_of_find?_eq_some found, selected.1.1, selected.1.2, selected.2⟩

/-- A used recovery code was an unused one of the account. -/
theorem consumeRecoveryCode_eq_some {user : User} {code : String} {after : LoginSite}
    (consumed : site.consumeRecoveryCode runtime now user code = some after) :
    ∃ row, site.matchingRecoveryCode runtime user code = some row ∧
      after = { site with
        recoveryCodes :=
          site.recoveryCodes.modify row.id (RecoveryCode.use now) (fun _ => rfl) } := by
  rw [LoginSite.consumeRecoveryCode] at consumed
  split at consumed
  · cases consumed
  · obtain ⟨row, found, same⟩ := Option.map_eq_some_iff.mp consumed
    exact ⟨row, found, same.symm⟩

/-- The two ways to prove the second factor. -/
theorem verifySecondFactor_eq_some {user : User} {code recoveryCode : String} {after : LoginSite}
    (passed : site.verifySecondFactor runtime now user code recoveryCode = .ok (some after)) :
    (site.checkTotp runtime now user code = .ok true ∧ after = site) ∨
      site.consumeRecoveryCode runtime now user recoveryCode = some after := by
  obtain ⟨verified, checked, same⟩ := Outcome.map_eq_ok.mp passed
  cases verified with
  | true => exact Or.inl ⟨checked, (Option.some.inj same).symm⟩
  | false => exact Or.inr same

end Outcomes

/-! ## Runs -/

/-- A request, or time that passes.  The session of an account sends the requests
on its second factor, whoever holds the session. -/
inductive LoginEvent where
  | login (email password ip token : String)
  | verify (token code recoveryCode ip : String)
  | setup (user : Nat) (secret : String)
  | confirm (user : Nat) (code : String) (draw : Nat → String)
  | disable (user : Nat) (password : String)
  | wait (microseconds : Nat)

structure LoginState where
  site : LoginSite
  now : Nat

/-- A session needs its account. -/
def LoginState.withAccount (state : LoginState) (user : Nat)
    (view : User → LoginSite × LoginAnswer) : LoginSite × LoginAnswer :=
  match state.site.users.find? user with
  | none => (state.site, .unauthenticated)
  | some user => view user

def LoginState.respond (runtime : LoginRuntime) (state : LoginState) :
    LoginEvent → LoginSite × LoginAnswer
  | .login email password ip token =>
      loginView runtime state.now state.site email password ip token
  | .verify token code recoveryCode ip =>
      twoFactorVerifyView runtime state.now state.site token code recoveryCode ip
  | .setup user secret =>
      state.withAccount user fun user => twoFactorSetupView runtime state.site user secret
  | .confirm user code draw =>
      state.withAccount user fun user =>
        twoFactorConfirmView runtime state.now state.site user code draw
  | .disable user password =>
      state.withAccount user fun user => twoFactorDisableView runtime state.site user password
  | .wait _ => (state.site, .done)

def LoginEvent.elapsed : LoginEvent → Nat
  | .wait microseconds => microseconds
  | _ => 0

def loginStep (runtime : LoginRuntime) (state : LoginState) (event : LoginEvent) : LoginState :=
  ⟨(state.respond runtime event).1, state.now + event.elapsed⟩

end RssiService.Accounts
