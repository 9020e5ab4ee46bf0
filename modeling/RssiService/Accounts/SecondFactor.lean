import RssiService.Accounts.Login
import RssiService.Foundation.Run

/-!
# The second factor stays required

A confirmed second factor is in force until its owner disables it with the
current password.  The credential row also carries the enrolment in progress, so
an enrolment that is started again takes the factor out of force.
-/

namespace RssiService.Accounts

open Foundation Foundation.Run

/-! ## The claim and its condition -/

/-- The accounts that have confirmed a second factor and not disabled it since. -/
structure EnrollmentHistory where
  state : LoginState
  armed : Nat → Bool

def armedAfter (armed : Nat → Bool) (answer : LoginAnswer) : LoginEvent → Nat → Bool
  | .confirm user _ _ => if answer = .done then Function.update armed user true else armed
  | .disable user _ => if answer = .done then Function.update armed user false else armed
  | _ => armed

def enrollmentStep (runtime : LoginRuntime) (history : EnrollmentHistory) (event : LoginEvent) :
    EnrollmentHistory where
  state := loginStep runtime history.state event
  armed := armedAfter history.armed (history.state.respond runtime event).2 event

/-- A right password is answered with a challenge. -/
def LoginSite.RequiresSecondFactor (runtime : LoginRuntime) (site : LoginSite) (user : User) :
    Prop :=
  ∀ now token, (site.secondStep runtime now user token).2 = .mfaRequired token

def EnrollmentHistory.Guarded (runtime : LoginRuntime) (history : EnrollmentHistory) : Prop :=
  ∀ user ∈ history.state.site.users, history.armed user.id = true →
    history.state.site.RequiresSecondFactor runtime user

/-- No fresh secret is stored for an account whose second factor is in force. -/
def LeavesConfirmed (runtime : LoginRuntime) (history : EnrollmentHistory) : LoginEvent → Prop
  | .setup user secret =>
      history.armed user = true → (∃ row ∈ history.state.site.users, row.id = user) →
        ∀ encrypted, runtime.encryptSecret secret ≠ .ok encrypted
  | _ => True

/-- The tokens of such an account are given to a challenge of it, against a code
of its confirmed secret or an unused recovery code. -/
def TokensProven (runtime : LoginRuntime) (history : EnrollmentHistory) (event : LoginEvent) :
    Prop :=
  ∀ key, (history.state.respond runtime event).2 = .tokens key → history.armed key = true →
    ∃ token code recoveryCode ip user, event = .verify token code recoveryCode ip ∧
      history.state.site.resolveMfaChallenge history.state.now token = some user ∧
      user.id = key ∧
      ((∃ credential ∈ history.state.site.credentials, credential.user = key ∧
          credential.confirmed = true ∧
          verifyTotpCode runtime history.state.now credential code = .ok true) ∨
        ∃ row ∈ history.state.site.recoveryCodes, row.user = key ∧ row.usedAt = none ∧
          runtime.checkPassword recoveryCode row.codeHash = true)

/-- Only its owner's disabling, with the current password, ends the history of an
account. -/
def DisarmedByPassword (runtime : LoginRuntime) (history : EnrollmentHistory)
    (event : LoginEvent) : Prop :=
  ∀ key, history.armed key = true → (enrollmentStep runtime history event).armed key = false →
    ∃ password user, event = .disable key password ∧ user ∈ history.state.site.users ∧
      user.id = key ∧ user.password.any (runtime.checkPassword password) = true

/-! ## Enrolments -/

section Enrollment

variable {runtime : LoginRuntime} {site : LoginSite} {user : Nat}

theorem isTotpEnabled_iff : site.isTotpEnabled user = true ↔
    ∃ row ∈ site.credentials, row.user = user ∧ row.confirmed = true := by
  simp [LoginSite.isTotpEnabled, Table.mem_def]

theorem requiresSecondFactor_iff {user : User} :
    site.RequiresSecondFactor runtime user ↔ site.isTotpEnabled user.id = true := by
  constructor
  · intro requires
    by_contra off
    have answered := requires 0 ""
    rw [LoginSite.secondStep, if_neg off, tokensForUser] at answered
    split at answered <;> cases answered
  · intro enabled now token
    rw [LoginSite.secondStep, if_pos enabled]

theorem isTotpEnabled_congr {other : LoginSite} (same : other.credentials = site.credentials) :
    other.isTotpEnabled user = site.isTotpEnabled user := by
  rw [LoginSite.isTotpEnabled, LoginSite.isTotpEnabled, same]

/-- The credential of an account is the only one of its rows. -/
theorem eq_of_user_eq {first second : TwoFactorCredential} (inFirst : first ∈ site.credentials)
    (inSecond : second ∈ site.credentials) (same : first.user = second.user) : first = second := by
  have distinct : (site.credentials.rows.map TwoFactorCredential.user).Nodup :=
    List.pairwise_map.mpr site.oneToOne
  exact List.inj_on_of_nodup_map distinct inFirst inSecond same

/-- Starting an enrolment takes the second factor of the account out of force. -/
theorem isTotpEnabled_writeEnrollment {other : Nat} {encrypted : String} :
    (site.writeEnrollment user encrypted).isTotpEnabled other = true ↔
      other ≠ user ∧ site.isTotpEnabled other = true := by
  rw [isTotpEnabled_iff, isTotpEnabled_iff]
  cases found : site.credentials.rows.find? fun row => row.user = user with
  | none =>
      have absent : ∀ row ∈ site.credentials, row.user ≠ user := by
        intro row inside
        simpa using List.find?_eq_none.mp found row inside
      rw [LoginSite.writeEnrollment]
      dsimp only
      rw [Table.updateOrCreate_of_none found]
      constructor
      · rintro ⟨row, inside, mine, confirmed⟩
        rcases Table.mem_create.mp inside with old | rfl
        · exact ⟨fun same => absent row old (mine.trans same), row, old, mine, confirmed⟩
        · cases confirmed
      · rintro ⟨_, row, inside, rest⟩
        exact ⟨row, Table.mem_create.mpr (Or.inl inside), rest⟩
  | some row =>
      have inside : row ∈ site.credentials := List.mem_of_find?_eq_some found
      have mine : row.user = user := by simpa using List.find?_some found
      rw [LoginSite.writeEnrollment]
      dsimp only
      rw [Table.updateOrCreate_of_some found]
      constructor
      · rintro ⟨changed, member, same, confirmed⟩
        rcases (Table.mem_modify_of_mem inside).mp member with rfl | ⟨old, apart⟩
        · cases confirmed
        · refine ⟨fun again => apart ?_, changed, old, same, confirmed⟩
          rw [eq_of_user_eq old inside (same.trans (again.trans mine.symm))]
      · rintro ⟨different, source, old, same, confirmed⟩
        refine ⟨source, (Table.mem_modify_of_mem inside).mpr (Or.inr ⟨old, ?_⟩), same, confirmed⟩
        intro sameRow
        have equal : source = row := Table.ident_injective old inside sameRow
        exact different (same.symm.trans (equal ▸ mine))

theorem mem_credentials_confirm {now : Nat} {credential row : TwoFactorCredential}
    (inside : credential ∈ site.credentials) :
    row ∈ (site.confirm now credential).credentials ↔
      row = { credential with confirmed := true, confirmedAt := some now } ∨
        row ∈ site.credentials ∧ row.id ≠ credential.id := by
  rw [LoginSite.confirm]
  dsimp only
  exact Table.mem_modify_of_mem inside

/-- A confirmation puts the second factor of one account in force. -/
theorem isTotpEnabled_confirm {now other : Nat} {credential : TwoFactorCredential}
    (inside : credential ∈ site.credentials) :
    (site.confirm now credential).isTotpEnabled other = true ↔
      other = credential.user ∨ site.isTotpEnabled other = true := by
  rw [isTotpEnabled_iff, isTotpEnabled_iff]
  constructor
  · rintro ⟨row, member, same, confirmed⟩
    rcases (mem_credentials_confirm inside).mp member with rfl | ⟨old, _⟩
    · exact Or.inl same.symm
    · exact Or.inr ⟨row, old, same, confirmed⟩
  · rintro (rfl | ⟨row, old, same, confirmed⟩)
    · exact ⟨_, (mem_credentials_confirm inside).mpr (Or.inl rfl), rfl, rfl⟩
    · by_cases sameRow : row.id = credential.id
      · have equal : row = credential := Table.ident_injective old inside sameRow
        refine ⟨_, (mem_credentials_confirm inside).mpr (Or.inl rfl), ?_, rfl⟩
        exact equal ▸ same
      · exact ⟨row, (mem_credentials_confirm inside).mpr (Or.inr ⟨old, sameRow⟩), same, confirmed⟩

theorem isTotpEnabled_disableTotp {account : User} {other : Nat} :
    (site.disableTotp account).isTotpEnabled other = true ↔
      other ≠ account.id ∧ site.isTotpEnabled other = true := by
  rw [isTotpEnabled_iff, isTotpEnabled_iff, LoginSite.disableTotp]
  simp only [Table.mem_deleteWhere, decide_eq_false_iff_not]
  constructor
  · rintro ⟨row, ⟨inside, apart⟩, same, confirmed⟩
    exact ⟨same ▸ apart, row, inside, same, confirmed⟩
  · rintro ⟨apart, row, inside, same, confirmed⟩
    exact ⟨row, ⟨inside, same ▸ apart⟩, same, confirmed⟩

end Enrollment

/-! ## One request -/

section Requests

variable {runtime : LoginRuntime} {history : EnrollmentHistory}

theorem guarded_iff : history.Guarded runtime ↔
    ∀ user ∈ history.state.site.users, history.armed user.id = true →
      history.state.site.isTotpEnabled user.id = true :=
  forall₃_congr fun _ _ _ => requiresSecondFactor_iff

theorem loginView_accounts {now : Nat} {site : LoginSite} {email password ip token : String} :
    (loginView runtime now site email password ip token).1.users = site.users ∧
      (loginView runtime now site email password ip token).1.credentials = site.credentials := by
  have course := loginView_course runtime now site email password ip token
  generalize loginView runtime now site email password ip token = result at course
  cases course <;> exact ⟨rfl, rfl⟩

theorem verifySecondFactor_accounts {now : Nat} {site after : LoginSite} {user : User}
    {code recoveryCode : String}
    (passed : site.verifySecondFactor runtime now user code recoveryCode = .ok (some after)) :
    after.users = site.users ∧ after.credentials = site.credentials := by
  rcases verifySecondFactor_eq_some passed with ⟨_, rfl⟩ | consumed
  · exact ⟨rfl, rfl⟩
  · obtain ⟨_, _, rfl⟩ := consumeRecoveryCode_eq_some consumed
    exact ⟨rfl, rfl⟩

theorem twoFactorVerifyView_accounts {now : Nat} {site : LoginSite}
    {token code recoveryCode ip : String} :
    (twoFactorVerifyView runtime now site token code recoveryCode ip).1.users = site.users ∧
      (twoFactorVerifyView runtime now site token code recoveryCode ip).1.credentials =
        site.credentials := by
  have course := twoFactorVerifyView_course runtime now site token code recoveryCode ip
  generalize twoFactorVerifyView runtime now site token code recoveryCode ip = result at course
  cases course with
  | verified user after given resolved free passed =>
      obtain ⟨users, credentials⟩ := verifySecondFactor_accounts passed
      exact ⟨users, credentials⟩
  | _ => exact ⟨rfl, rfl⟩

/-- What neither touches the accounts nor their credentials keeps the guard. -/
theorem guarded_of_same {after : LoginState} (guarded : history.Guarded runtime)
    (same : after.site.users = history.state.site.users ∧
      after.site.credentials = history.state.site.credentials) :
    EnrollmentHistory.Guarded runtime ⟨after, history.armed⟩ := by
  rw [guarded_iff] at guarded ⊢
  intro user inside armed
  rw [isTotpEnabled_congr same.2]
  exact guarded user (same.1 ▸ inside) armed

/-- An enrolment is stored, or nothing changes. -/
theorem setup_guarded_iff {user : Nat} {secret : String} (guarded : history.Guarded runtime) :
    (enrollmentStep runtime history (.setup user secret)).Guarded runtime ↔
      LeavesConfirmed runtime history (.setup user secret) := by
  rw [enrollmentStep, loginStep, LoginState.respond, LoginState.withAccount, LeavesConfirmed]
  split
  · rename_i absent
    refine iff_of_true (guarded_of_same guarded ⟨rfl, rfl⟩) ?_
    rintro _ ⟨row, inside, mine⟩
    have found : history.state.site.users.find? user = some row :=
      Table.find?_eq_some_iff.mpr ⟨inside, mine⟩
    cases absent.symm.trans found
  · rename_i account found
    obtain ⟨inside, mine⟩ := Table.find?_eq_some_iff.mp found
    have known : ∃ row ∈ history.state.site.users, row.id = user := ⟨account, inside, mine⟩
    rw [twoFactorSetupView, startTotpEnrollment]
    cases stored : runtime.encryptSecret secret with
    | error error =>
        refine iff_of_true (guarded_of_same guarded ⟨rfl, rfl⟩) ?_
        intro _ _ encrypted
        rintro ⟨⟩
    | ok encrypted =>
        rw [guarded_iff] at guarded ⊢
        have off (other : User) (apart : other.id ≠ user) :
            ((history.state.site.writeEnrollment account.id encrypted).isTotpEnabled other.id =
              true) ↔ history.state.site.isTotpEnabled other.id = true := by
          rw [isTotpEnabled_writeEnrollment]
          exact and_iff_right fun same => apart (same.trans mine)
        constructor
        · intro enabled armed _
          have still := enabled account inside (mine ▸ armed)
          exact absurd rfl (isTotpEnabled_writeEnrollment.mp still).1
        · intro unarmed other member armed
          have apart : other.id ≠ user := by
            rintro rfl
            exact unarmed armed known encrypted rfl
          exact (off other apart).mpr (guarded other member armed)

theorem confirmTotpEnrollment_eq_ok {now : Nat} {site after : LoginSite} {user : User}
    {code : String} {draw : Nat → String}
    (confirmed : confirmTotpEnrollment runtime now site user code draw = .ok after) :
    after.users = site.users ∧
      ∀ other, after.isTotpEnabled other = true ↔
        other = user.id ∨ site.isTotpEnabled other = true := by
  rw [confirmTotpEnrollment] at confirmed
  split at confirmed
  · cases confirmed
  · rename_i credential pending
    split at confirmed
    · cases confirmed
    · cases confirmed
    · cases confirmed
      have inside : credential ∈ site.credentials := List.mem_of_find?_eq_some pending
      have selected := List.find?_some pending
      rw [Bool.and_eq_true, decide_eq_true_eq] at selected
      refine ⟨rfl, fun other => ?_⟩
      rw [← selected.1]
      exact isTotpEnabled_confirm inside

/-- A confirmation puts the factor in force, and changes that of no other account. -/
theorem confirm_guarded {user : Nat} {code : String} {draw : Nat → String}
    (guarded : history.Guarded runtime) :
    (enrollmentStep runtime history (.confirm user code draw)).Guarded runtime := by
  rw [enrollmentStep, loginStep, LoginState.respond, LoginState.withAccount]
  split
  · exact guarded_of_same guarded ⟨rfl, rfl⟩
  · rename_i account found
    have mine : account.id = user := Table.ident_of_find? found
    rw [twoFactorConfirmView]
    cases confirmed : confirmTotpEnrollment runtime history.state.now history.state.site account
        code draw with
    | error error => exact guarded_of_same guarded ⟨rfl, rfl⟩
    | ok after =>
        obtain ⟨users, enabled⟩ := confirmTotpEnrollment_eq_ok confirmed
        rw [guarded_iff] at guarded ⊢
        intro other member armed
        refine (enabled other.id).mpr ?_
        by_cases same : other.id = user
        · exact Or.inl (same.trans mine.symm)
        · have before : Function.update history.armed user true other.id = true := armed
          rw [Function.update_of_ne same] at before
          exact Or.inr (guarded other (users ▸ member) before)

/-- The account that is disabled is no longer in the history. -/
theorem disable_guarded {user : Nat} {password : String} (guarded : history.Guarded runtime) :
    (enrollmentStep runtime history (.disable user password)).Guarded runtime := by
  rw [enrollmentStep, loginStep, LoginState.respond, LoginState.withAccount]
  split
  · exact guarded_of_same guarded ⟨rfl, rfl⟩
  · rename_i account found
    have mine : account.id = user := Table.ident_of_find? found
    rw [twoFactorDisableView]
    split
    · rw [guarded_iff] at guarded ⊢
      intro other member armed
      have after : Function.update history.armed user false other.id = true := armed
      have apart : other.id ≠ user := by
        rintro same
        rw [same, Function.update_self] at after
        cases after
      rw [Function.update_of_ne apart] at after
      exact isTotpEnabled_disableTotp.mpr
        ⟨fun same => apart (same.trans mine), guarded other member after⟩
    · exact guarded_of_same guarded ⟨rfl, rfl⟩

theorem guarded_step_iff (event : LoginEvent) (guarded : history.Guarded runtime) :
    (enrollmentStep runtime history event).Guarded runtime ↔
      LeavesConfirmed runtime history event := by
  cases event with
  | login email password ip token =>
      exact iff_of_true (guarded_of_same guarded loginView_accounts) trivial
  | verify token code recoveryCode ip =>
      exact iff_of_true (guarded_of_same guarded twoFactorVerifyView_accounts) trivial
  | setup user secret => exact setup_guarded_iff guarded
  | confirm user code draw => exact iff_of_true (confirm_guarded guarded) trivial
  | disable user password => exact iff_of_true (disable_guarded guarded) trivial
  | wait microseconds => exact iff_of_true (guarded_of_same guarded ⟨rfl, rfl⟩) trivial

theorem tokensForUser_eq_tokens {user : User} {key : Nat}
    (given : tokensForUser runtime user = .tokens key) : user.id = key := by
  rw [tokensForUser] at given
  split at given
  · cases given
  · cases given
    rfl

theorem withAccount_cases {state : LoginState} {user : Nat}
    {view : User → LoginSite × LoginAnswer} {P : LoginSite × LoginAnswer → Prop}
    (absent : P (state.site, .unauthenticated))
    (present : ∀ account ∈ state.site.users, account.id = user → P (view account)) :
    P (state.withAccount user view) := by
  rw [LoginState.withAccount]
  split
  · exact absent
  · rename_i account found
    obtain ⟨inside, mine⟩ := Table.find?_eq_some_iff.mp found
    exact present account inside mine

/-- The requests of a session are not answered with tokens. -/
theorem withAccount_ne_tokens {state : LoginState} {user key : Nat}
    {view : User → LoginSite × LoginAnswer} (none : ∀ account, (view account).2 ≠ .tokens key) :
    (state.withAccount user view).2 ≠ .tokens key := by
  refine withAccount_cases (P := fun result => result.2 ≠ .tokens key) ?_ ?_
  · rintro ⟨⟩
  · intro account _ _
    exact none account

/-- A code is right against the confirmed secret of the account. -/
theorem checkTotp_eq_true {now : Nat} {site : LoginSite} {user : User} {code : String}
    (checked : site.checkTotp runtime now user code = .ok true) :
    ∃ credential ∈ site.credentials, credential.user = user.id ∧ credential.confirmed = true ∧
      verifyTotpCode runtime now credential code = .ok true := by
  rw [LoginSite.checkTotp] at checked
  split at checked
  · cases checked
  · rename_i credential found
    have selected := List.find?_some found
    rw [Bool.and_eq_true, decide_eq_true_eq] at selected
    exact ⟨credential, List.mem_of_find?_eq_some found, selected.1, selected.2, checked⟩

theorem tokensProven (event : LoginEvent) (guarded : history.Guarded runtime) :
    TokensProven runtime history event := by
  intro key given armed
  cases event with
  | login email password ip token =>
      rw [LoginState.respond] at given
      have course := loginView_course runtime history.state.now history.state.site email password
        ip token
      generalize loginView runtime history.state.now history.state.site email password ip token =
        result at course given
      cases course with
      | admitted user free passed disabled =>
          have same : user.id = key := tokensForUser_eq_tokens given
          have enabled := guarded_iff.mp guarded user (authenticate_eq_some passed).1 (same ▸ armed)
          exact absurd (disabled.symm.trans enabled) Bool.false_ne_true
      | _ => cases given
  | verify token code recoveryCode ip =>
      rw [LoginState.respond] at given
      have course := twoFactorVerifyView_course runtime history.state.now history.state.site token
        code recoveryCode ip
      generalize twoFactorVerifyView runtime history.state.now history.state.site token code
        recoveryCode ip = result at course given
      cases course with
      | verified user after present resolved free passed =>
          have same : user.id = key := tokensForUser_eq_tokens given
          refine ⟨token, code, recoveryCode, ip, user, rfl, resolved, same, ?_⟩
          rcases verifySecondFactor_eq_some passed with ⟨checked, _⟩ | consumed
          · exact Or.inl (same ▸ checkTotp_eq_true checked)
          · obtain ⟨row, found, _⟩ := consumeRecoveryCode_eq_some consumed
            obtain ⟨inside, mine, unused, matching⟩ := matchingRecoveryCode_eq_some found
            exact Or.inr ⟨row, inside, mine.trans same, unused, matching⟩
      | _ => cases given
  | setup user secret =>
      refine absurd given (withAccount_ne_tokens fun account => ?_)
      rw [twoFactorSetupView]
      split <;> rintro ⟨⟩
  | confirm user code draw =>
      refine absurd given (withAccount_ne_tokens fun account => ?_)
      rw [twoFactorConfirmView]
      split <;> rintro ⟨⟩
  | disable user password =>
      refine absurd given (withAccount_ne_tokens fun account => ?_)
      rw [twoFactorDisableView]
      split <;> rintro ⟨⟩
  | wait microseconds => cases given

theorem disarmedByPassword (event : LoginEvent) : DisarmedByPassword runtime history event := by
  intro key armed lost
  cases event with
  | disable user password =>
      by_cases disabled : (history.state.respond runtime (.disable user password)).2 = .done
      · have same : key = user := by
          by_contra apart
          have after : armedAfter history.armed
              (history.state.respond runtime (.disable user password)).2
              (.disable user password) key = false := lost
          rw [armedAfter, if_pos disabled, Function.update_of_ne apart, armed] at after
          cases after
        subst same
        revert disabled
        rw [LoginState.respond]
        refine withAccount_cases (P := fun result => result.2 = .done → _) ?_ ?_
        · rintro ⟨⟩
        · intro account inside mine answered
          refine ⟨password, account, rfl, inside, mine, ?_⟩
          rw [twoFactorDisableView] at answered
          split at answered
          · assumption
          · cases answered
      · have after : armedAfter history.armed
            (history.state.respond runtime (.disable user password)).2
            (.disable user password) key = false := lost
        rw [armedAfter, if_neg disabled, armed] at after
        cases after
  | confirm user code draw =>
      have after : armedAfter history.armed (history.state.respond runtime (.confirm user code
          draw)).2 (.confirm user code draw) key = false := lost
      rw [armedAfter] at after
      split at after
      · by_cases same : key = user
        · rw [same, Function.update_self] at after
          cases after
        · rw [Function.update_of_ne same, armed] at after
          cases after
      · rw [armed] at after
        cases after
  | login _ _ _ _ | verify _ _ _ _ | setup _ _ | wait _ => cases armed.symm.trans lost

end Requests

/-! ## Runs -/

/-- A confirmed second factor is required at every state of a run exactly where no
enrolment is started again on an account that has one in force.  As long as it
is, tokens are only given against a code, and only the current password ends it. -/
theorem second_factor_stays_iff (runtime : LoginRuntime) (start : EnrollmentHistory)
    (events : List LoginEvent) :
    (Always (enrollmentStep runtime) (EnrollmentHistory.Guarded runtime) start events ↔
      start.Guarded runtime ∧
        EachStep (enrollmentStep runtime) (LeavesConfirmed runtime) start events) ∧
    (Always (enrollmentStep runtime) (EnrollmentHistory.Guarded runtime) start events →
      EachStep (enrollmentStep runtime) (TokensProven runtime) start events) ∧
    EachStep (enrollmentStep runtime) (DisarmedByPassword runtime) start events := by
  refine ⟨?_, ?_, ?_⟩
  · exact always_iff_start_and_eachStep (fun _ event => guarded_step_iff event) start events
  · exact eachStep_of_always fun _ event => tokensProven event
  · exact eachStep_of_forall (fun _ event => disarmedByPassword event) start events

/-! ## An enrolment started again -/

/-- A runtime for examples: nothing is encrypted, and a code is its secret. -/
def bareLoginRuntime : LoginRuntime where
  toRuntime := bareRuntime
  checkPassword := fun password hash => password = hash
  encryptSecret := .ok
  decryptSecret := .ok
  verifyTotp := fun _ secret code => secret = code
  tokenRefusal := fun _ => none

/-- One active account. -/
def oneAccount : LoginSite where
  users := (Table.empty : Table User).create
    (fun key =>
      { id := key
        email := "user@example.com"
        password := some "Str0ng!Passw0rd123"
        isActive := true
        isStaff := false
        isSuperuser := false })
    (fun _ => rfl)
  credentials := .empty
  recoveryCodes := .empty
  challenges := .empty
  lockouts := .empty
  oneToOne := .nil

/-- A second factor is set up and confirmed, then another set up and left there. -/
def setUpAgain : List LoginEvent :=
  [.setup 0 "123456", .confirm 0 "123456" fun place => toString place, .setup 0 "654321"]

/-- The password is then enough. -/
theorem enrollment_started_again_lifts_factor :
    ¬ Always (enrollmentStep bareLoginRuntime) (EnrollmentHistory.Guarded bareLoginRuntime)
        ⟨⟨oneAccount, 0⟩, fun _ => false⟩ setUpAgain ∧
      ((after (enrollmentStep bareLoginRuntime) ⟨⟨oneAccount, 0⟩, fun _ => false⟩
          setUpAgain).state.respond bareLoginRuntime
        (.login "user@example.com" "Str0ng!Passw0rd123" "203.0.113.7" "")).2 = .tokens 0 := by
  constructor
  · intro always
    have guarded := always.last
    have required : (LoginSite.secondStep bareLoginRuntime 0
        (after (enrollmentStep bareLoginRuntime) ⟨⟨oneAccount, 0⟩, fun _ => false⟩
          setUpAgain).state.site _ "").2 = .mfaRequired "" :=
      guarded _ List.mem_cons_self (by decide +kernel) 0 ""
    revert required
    decide +kernel
  · decide +kernel

end RssiService.Accounts
