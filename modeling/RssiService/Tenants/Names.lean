import RssiService.Foundation.Run
import RssiService.Tenants.Lifecycle

/-!
# Names of the tenants

The console refuses a name that a tenant out of the trash has.  A sign-up takes whatever name
it is given, a conversion compares the texts as they are, and a restoration brings a name back
that another tenant may have received meanwhile.
-/

namespace RssiService.Tenants

open Foundation Foundation.Outcome Foundation.Run Python

/-- No two tenants out of the trash have one name, up to case. -/
def Clients.NamesDistinct (host : Host) (clients : Clients) : Prop :=
  clients.tenants.UniqueLive (fun row => row.isArchived = false) (fun row => host.upper row.name)

/-- The pool has no room for the plan of a new trial. -/
def Clients.lacksRoom (settings : Billing.Settings) (clients : Clients) : Bool :=
  !(clients.billing.subscriptions.rows.any fun row => row.tenant = clients.tenants.next) &&
    (clients.billing.getDefaultTrialPlan settings).any fun plan =>
      !(clients.billing.ensureMonitoredSlotsAvailable settings plan.monitoredAssets none).isOk

/-- A sign-up goes through. -/
def Clients.admits (host : Host) (settings : Billing.Settings) (clients : Clients)
    (request : SignUp) : Bool :=
  !(clients.users.rows.any fun row =>
      host.iexact row.email (normalizeEmail host.unicode request.email)) &&
    !clients.lacksRoom settings

/-- A request for a demonstration is converted. -/
def Clients.converts (settings : Billing.Settings) (clients : Clients) (demande : DemoRequest) :
    Bool :=
  !(clients.tenants.rows.any fun row => row.name = demande.company) && !clients.lacksRoom settings

/-- A name that reaches the tenants without the check of the console is free. -/
def Clients.Fits (host : Host) (clients : Clients) (request : TenantRequest) : Prop :=
  match request.operation with
  | .createClient _ | .updateTenant _ _ | .archiveTenant _ _ _ => True
  | .register signUp =>
      clients.admits host request.settings signUp = true →
        clients.nameTaken host signUp.companyName none = false
  | .convert key =>
      ∀ demande, clients.demoRequests.find? key = some demande →
        clients.converts request.settings demande = true →
        clients.nameTaken host demande.company none = false
  | .restoreTenant key =>
      ∀ row, clients.tenants.find? key = some row → row.isArchived = true →
        clients.nameTaken host row.name none = false

/-! ## Names that are free -/

section Names

variable {host : Host} {settings : Billing.Settings} {now : Nat} {clients after : Clients}

theorem nameTaken_some_eq_false_iff {name : String} {key : Nat} :
    clients.nameTaken host name (some key) = false ↔
      clients.tenants.Vacant (fun row => row.isArchived = false) (fun row => host.upper row.name)
        (host.upper name) key := by
  rw [Clients.nameTaken, List.any_eq_false]
  constructor
  · intro free row inside alive apart same
    exact free row inside (by simpa [Host.iexact, same, alive] using fun met => apart met.symm)
  · intro vacant row inside taken
    simp only [Host.iexact, Bool.and_eq_true, decide_eq_true_eq, Bool.not_eq_true'] at taken
    exact vacant row inside taken.1.2 (fun same => taken.2 (congrArg some same.symm)) taken.1.1

theorem nameTaken_none_eq_false_iff {name : String} :
    clients.nameTaken host name none = false ↔
      ∀ row ∈ clients.tenants, row.isArchived = false → host.upper row.name ≠ host.upper name := by
  rw [Clients.nameTaken, List.any_eq_false]
  constructor
  · intro free row inside alive same
    exact free row inside (by simp [Host.iexact, same, alive])
  · intro absent row inside taken
    simp only [Host.iexact, Bool.and_eq_true, decide_eq_true_eq, Bool.not_eq_true'] at taken
    exact absent row inside taken.1.2 taken.1.1

theorem checkName_eq_ok {name accepted : String} {excluding : Option Nat} {taken : String → String}
    (ok : clients.checkName host name excluding taken = .ok accepted) :
    clients.nameTaken host accepted excluding = false := by
  unfold Clients.checkName at ok
  dsimp only at ok
  split at ok
  · cases ok
  · split at ok
    · cases ok
    · rename_i free
      cases ok
      exact Bool.eq_false_iff.mpr free

/-! ## What the writes leave -/

theorem namesDistinct_congr (same : after.tenants = clients.tenants) :
    after.NamesDistinct host ↔ clients.NamesDistinct host := by
  rw [Clients.NamesDistinct, Clients.NamesDistinct, same]

theorem namesDistinct_open_iff (distinct : clients.NamesDistinct host) {name slug : String}
    {fiche : Fiche}
    (opened : after.tenants =
      clients.tenants.create (Tenant.opened name slug fiche) (Tenant.ident_opened _ _ _)) :
    after.NamesDistinct host ↔ clients.nameTaken host name none = false := by
  rw [Clients.NamesDistinct, opened, Table.uniqueLive_create_iff distinct, Table.vacant_next_iff,
    nameTaken_none_eq_false_iff]
  exact ⟨fun vacant => vacant rfl, fun absent _ => absent⟩

theorem namesDistinct_modify_iff (distinct : clients.NamesDistinct host) {key : Nat} {row : Tenant}
    (found : clients.tenants.find? key = some row) (change : Tenant → Tenant)
    (keeps : ∀ row, ident (change row) = ident row)
    (modified : after.tenants = clients.tenants.modify key change keeps) :
    after.NamesDistinct host ↔
      ((change row).isArchived = false →
        clients.nameTaken host (change row).name (some key) = false) := by
  rw [Clients.NamesDistinct, modified, Table.uniqueLive_modify_iff distinct found,
    nameTaken_some_eq_false_iff]

/-- In the trash, a tenant does not carry its name. -/
theorem nameTaken_archived {key : Nat} {row : Tenant}
    (found : clients.tenants.find? key = some row) (archived : row.isArchived = true)
    (name : String) :
    clients.nameTaken host name (some key) = false ↔ clients.nameTaken host name none = false := by
  rw [nameTaken_some_eq_false_iff, nameTaken_none_eq_false_iff]
  constructor
  · intro vacant other inside alive
    have apart : ident other ≠ key := by
      intro same
      have merged := Table.ident_injective inside (Table.mem_of_find? found)
        (same.trans (Table.ident_of_find? found).symm)
      rw [merged, archived] at alive
      cases alive
    exact vacant other inside alive apart
  · intro absent other inside alive _
    exact absent other inside alive

/-! ## What the operations do to the tenants -/

/-- The only failure of a new trial that counts is a lack of room. -/
theorem startTrial_refused_iff (settings : Billing.Settings) (now : Billing.Instant)
    (clients : Clients) (owner : Nat) :
    (∃ operator client, clients.billing.startTrial settings now clients.tenants.next none
        (some owner) none = .error (.platformCapacity operator client)) ↔
      clients.lacksRoom settings = true := by
  rw [Billing.Store.startTrial, Clients.lacksRoom]
  cases clients.billing.subscriptions.rows.any fun row => row.tenant = clients.tenants.next with
  | true => simp
  | false =>
      cases clients.billing.getDefaultTrialPlan settings with
      | none => simp [bind, Except.bind]
      | some plan =>
          cases answered : clients.billing.ensureMonitoredSlotsAvailable settings
              plan.monitoredAssets none with
          | ok granted => simp [answered, bind, Except.bind, Except.isOk, Except.toBool]
          | error failure =>
              obtain ⟨operator, client, rfl⟩ := Billing.platformCapacity_of_refused answered
              simp [answered, bind, Except.bind, Except.isOk, Except.toBool]

/-- A tenant opened outside of the console takes the name it is given. -/
theorem createTenantWithOwner_cases (host : Host) (settings : Billing.Settings)
    (now : Billing.Instant) {known : Clients} (tenants : known.tenants = clients.tenants)
    (billing : known.billing = clients.billing) (name : String) (owner : Nat) (fiche : Fiche) :
    (clients.lacksRoom settings = true ∧
      ∃ refusal, known.createTenantWithOwner host settings now name owner fiche = .error refusal) ∨
    (clients.lacksRoom settings = false ∧
      ∃ opened slug, known.createTenantWithOwner host settings now name owner fiche = .ok opened ∧
        opened.tenants =
          clients.tenants.create (Tenant.opened name slug fiche) (Tenant.ident_opened _ _ _)) := by
  have refusedIff := startTrial_refused_iff settings now clients owner
  rw [Clients.createTenantWithOwner, tenants, billing]
  split
  · rename_i billing started
    refine Or.inr ⟨?_, _, known.uniqueSlug host name, rfl, ?_⟩
    · rw [← Bool.not_eq_true, ← refusedIff, started]
      rintro ⟨operator, client, same⟩
      cases same
    · rw [Clients.openTenant, tenants]
  · rename_i operator client started
    exact Or.inl ⟨refusedIff.mp ⟨operator, client, started⟩, _, rfl⟩
  · rename_i failure other started
    refine Or.inr ⟨?_, _, known.uniqueSlug host name, rfl, ?_⟩
    · rw [← Bool.not_eq_true, ← refusedIff, started]
      rintro ⟨operator, client, same⟩
      cases same
      exact other operator client rfl
    · rw [Clients.openTenant, tenants]

theorem namesDistinct_register_iff (distinct : clients.NamesDistinct host) (request : SignUp) :
    (clients.commit (clients.register host settings now request)).NamesDistinct host ↔
      (clients.admits host settings request = true →
        clients.nameTaken host request.companyName none = false) := by
  rw [Clients.register, Clients.admits]
  dsimp only
  cases clients.users.rows.any fun row =>
      host.iexact row.email (normalizeEmail host.unicode request.email) with
  | true => exact iff_of_true distinct nofun
  | false =>
      have tenants : (clients.createUser (normalizeEmail host.unicode request.email)
          (some (host.makePassword request.password)) true).tenants = clients.tenants := rfl
      rcases createTenantWithOwner_cases host settings now tenants rfl request.companyName
          clients.users.next {} with
        ⟨full, refusal, refused⟩ | ⟨room, opened, slug, ok, created⟩
      · simp only [refused, full]
        exact iff_of_true distinct nofun
      · simp only [ok, room, Bool.false_eq_true, if_false, Clients.commit]
        rw [namesDistinct_open_iff distinct created]
        exact ⟨fun free _ => free, fun free => free rfl⟩

/-- The account of an address is found or created; the tenants are not touched. -/
theorem getOrCreateUser_frame (clients : Clients) (email : String) :
    (clients.getOrCreateUser email).1.tenants = clients.tenants ∧
      (clients.getOrCreateUser email).1.billing = clients.billing := by
  rw [Clients.getOrCreateUser]
  split
  · exact ⟨rfl, rfl⟩
  · exact ⟨rfl, rfl⟩

theorem namesDistinct_convert_iff (distinct : clients.NamesDistinct host) (key : Nat) :
    (clients.convert host settings now key).1.NamesDistinct host ↔
      ∀ demande, clients.demoRequests.find? key = some demande →
        clients.converts settings demande = true →
        clients.nameTaken host demande.company none = false := by
  rw [Clients.convert]
  cases clients.demoRequests.find? key with
  | none =>
      refine iff_of_true distinct ?_
      intro demande known
      cases known
  | some demande =>
      dsimp only
      simp only [Option.some.injEq, forall_eq', Clients.converts]
      cases clients.tenants.rows.any fun row => row.name = demande.company with
      | true =>
          refine iff_of_true distinct ?_
          intro converted
          cases converted
      | false =>
          obtain ⟨tenants, billing⟩ := getOrCreateUser_frame clients demande.email
          rcases createTenantWithOwner_cases host settings now tenants billing demande.company
              (clients.getOrCreateUser demande.email).2 {} with
            ⟨full, refusal, refused⟩ | ⟨room, opened, slug, ok, created⟩
          · simp only [refused, full]
            refine iff_of_true ((namesDistinct_congr tenants).mpr distinct) ?_
            intro converted
            cases converted
          · simp only [ok, room, Bool.false_eq_true, if_false]
            refine (namesDistinct_open_iff distinct (by exact created)).trans ?_
            exact ⟨fun free _ => free, fun free => free rfl⟩

theorem ownerAccount_frame (clients : Clients) (email : String) :
    (clients.ownerAccount host email).1.tenants = clients.tenants := by
  rw [Clients.ownerAccount]
  split
  · rfl
  · rfl

/-- A client of the console gets a name that is free. -/
theorem createClient_eq_ok {request : ClientRequest}
    (done : clients.createClient host settings now request = .ok after) :
    ∃ name slug, clients.nameTaken host name none = false ∧
      after.tenants =
        clients.tenants.create (Tenant.opened name slug request.fiche)
          (Tenant.ident_opened _ _ _) := by
  unfold Clients.createClient at done
  obtain ⟨name, checked, done⟩ := bind_eq_ok.mp done
  dsimp only at done
  split at done
  · cases done
  · obtain ⟨billing, _, done⟩ := bind_eq_ok.mp done
    cases done
    refine ⟨name, Clients.uniqueSlug host
      (clients.ownerAccount host (host.unicode.lower (strip request.ownerEmail))).1 name,
      checkName_eq_ok checked, ?_⟩
    rw [Clients.openTenant, ownerAccount_frame]

theorem namesDistinct_createClient (distinct : clients.NamesDistinct host)
    (request : ClientRequest) :
    (clients.commit (clients.createClient host settings now request)).NamesDistinct host := by
  cases done : clients.createClient host settings now request with
  | error refusal => exact distinct
  | ok after =>
      obtain ⟨name, slug, free, created⟩ := createClient_eq_ok done
      exact (namesDistinct_open_iff distinct created).mpr free

theorem require_eq_ok {Row : Type} {found : Option Row} {row : Row} :
    require found = .ok row ↔ found = some row := by
  cases found <;> simp [require]

theorem checkRenaming_eq_ok {key : Nat} {asked accepted : Option String}
    (ok : clients.checkRenaming host key asked = .ok accepted) :
    ∀ name, accepted = some name → clients.nameTaken host name (some key) = false := by
  intro name same
  cases asked with
  | none =>
      cases ok
      cases same
  | some text =>
      obtain ⟨checked, passes, rfl⟩ := map_eq_ok.mp ok
      cases same
      exact checkName_eq_ok passes

theorem namesDistinct_updateTenant (distinct : clients.NamesDistinct host) (key : Nat)
    (changes : TenantChanges) :
    (clients.commit (clients.updateTenant host key changes)).NamesDistinct host := by
  cases done : clients.updateTenant host key changes with
  | error refusal => exact distinct
  | ok after =>
      unfold Clients.updateTenant at done
      obtain ⟨row, found, done⟩ := bind_eq_ok.mp done
      obtain ⟨name, checked, done⟩ := bind_eq_ok.mp done
      cases done
      have found := require_eq_ok.mp found
      have known : row.id = key := Table.ident_of_find? found
      refine (namesDistinct_modify_iff distinct found (changes.apply name) (fun _ => rfl)
        rfl).mpr fun alive => ?_
      cases name with
      | none =>
          have alone := Table.vacant_of_mem distinct (Table.mem_of_find? found) alive
          rw [show ident row = key from known] at alone
          exact nameTaken_some_eq_false_iff.mpr alone
      | some text => exact known ▸ checkRenaming_eq_ok checked text rfl

theorem namesDistinct_archiveTenant (distinct : clients.NamesDistinct host) (key : Nat)
    (actor : Option Nat) (reason : String) :
    (clients.commit (clients.archiveTenant now key actor reason)).NamesDistinct host := by
  cases done : clients.archiveTenant now key actor reason with
  | error refusal => exact distinct
  | ok after =>
      unfold Clients.archiveTenant at done
      obtain ⟨row, found, done⟩ := bind_eq_ok.mp done
      split at done
      · cases done
        exact distinct
      · obtain ⟨billing, _, done⟩ := bind_eq_ok.mp done
        cases done
        refine (namesDistinct_modify_iff distinct (require_eq_ok.mp found)
          (Tenant.archived now actor reason) (fun _ => rfl) rfl).mpr ?_
        intro alive
        cases alive

theorem namesDistinct_restoreTenant_iff (distinct : clients.NamesDistinct host) (key : Nat) :
    (clients.commit (clients.restoreTenant key)).NamesDistinct host ↔
      ∀ row, clients.tenants.find? key = some row → row.isArchived = true →
        clients.nameTaken host row.name none = false := by
  rw [Clients.restoreTenant]
  cases found : clients.tenants.find? key with
  | none => exact iff_of_true distinct nofun
  | some row =>
      cases archived : row.isArchived with
      | false =>
          refine iff_of_true ?_ ?_
          · simpa [require, bind, Except.bind, pure, Except.pure, archived, Clients.commit]
              using distinct
          · rintro other same inTrash
            cases same
            rw [archived] at inTrash
            cases inTrash
      | true =>
          simp only [require, bind, Except.bind, archived, Bool.not_true, Bool.false_eq_true,
            if_false, Option.some.injEq, forall_eq']
          refine (namesDistinct_modify_iff distinct found Tenant.restored (fun _ => rfl)
            rfl).trans ?_
          rw [nameTaken_archived found archived]
          exact ⟨fun free _ => free rfl, fun free _ => free trivial⟩

/-- The names stay distinct after an operation exactly where a name that the console has not
checked is free. -/
theorem namesDistinct_step_iff (distinct : clients.NamesDistinct host) (request : TenantRequest) :
    (clients.step host request).NamesDistinct host ↔ clients.Fits host request := by
  rw [Clients.step, Clients.Fits]
  cases request.operation with
  | createClient client => exact iff_of_true (namesDistinct_createClient distinct client) trivial
  | register signUp => exact namesDistinct_register_iff distinct signUp
  | convert key => exact namesDistinct_convert_iff distinct key
  | updateTenant key changes =>
      exact iff_of_true (namesDistinct_updateTenant distinct key changes) trivial
  | archiveTenant key actor reason =>
      exact iff_of_true (namesDistinct_archiveTenant distinct key actor reason) trivial
  | restoreTenant key => exact namesDistinct_restoreTenant_iff distinct key

end Names

/-- Over every sequence of openings, renamings, archivings and restorations, no two tenants out
of the trash have one name exactly where none had at first and every sign-up, conversion and
restoration that goes through finds its name free. -/
theorem namesDistinct_always_iff (host : Host) (start : Clients) (requests : List TenantRequest) :
    Always (Clients.step host) (Clients.NamesDistinct host) start requests ↔
      start.NamesDistinct host ∧ EachStep (Clients.step host) (Clients.Fits host) start requests :=
  always_iff_start_and_eachStep (fun _ request distinct => namesDistinct_step_iff distinct request)
    start requests

/-! ## Slugs -/

/-- No two tenants have one slug, those in the trash included. -/
def Clients.SlugsDistinct (clients : Clients) : Prop :=
  clients.tenants.UniqueLive (fun _ => True) Tenant.slug

section Slugs

variable {host : Host} {settings : Billing.Settings} {now : Nat} {clients known after : Clients}

theorem slugsDistinct_open (host : Host) (distinct : clients.SlugsDistinct)
    (same : known.tenants = clients.tenants) (name : String) (fiche : Fiche) (owner : Nat) :
    (known.openTenant host name fiche owner).SlugsDistinct := by
  rw [Clients.SlugsDistinct, ← same] at distinct
  rw [Clients.SlugsDistinct, Clients.openTenant, Table.uniqueLive_create_iff distinct,
    Table.vacant_next_iff]
  exact fun _ row inside _ => uniqueSlug_free host known name row inside

theorem slugsDistinct_modify (distinct : clients.SlugsDistinct) {key : Nat} {row : Tenant}
    (found : require (clients.tenants.find? key) = .ok row) {change : Tenant → Tenant}
    (keeps : ∀ row, ident (change row) = ident row)
    (changed : after.tenants = clients.tenants.modify key change keeps)
    (slug : (change row).slug = row.slug) : after.SlugsDistinct := by
  have found := require_eq_ok.mp found
  rw [Clients.SlugsDistinct, changed, Table.uniqueLive_modify_iff distinct found, slug,
    ← Table.ident_of_find? found]
  exact fun _ => Table.vacant_of_mem distinct (Table.mem_of_find? found) trivial

theorem slugsDistinct_createTenantWithOwner (distinct : clients.SlugsDistinct)
    (same : known.tenants = clients.tenants) {name : String} {owner : Nat} {fiche : Fiche}
    (done : known.createTenantWithOwner host settings now name owner fiche = .ok after) :
    after.SlugsDistinct := by
  have opened := slugsDistinct_open host distinct same name fiche owner
  unfold Clients.createTenantWithOwner at done
  dsimp only at done
  split at done <;> cases done <;> exact opened

theorem slugsDistinct_step (distinct : clients.SlugsDistinct) (request : TenantRequest) :
    (clients.step host request).SlugsDistinct := by
  have committed {outcome : Except ClientRefusal Clients}
      (done : ∀ after, outcome = .ok after → after.SlugsDistinct) :
      (clients.commit outcome).SlugsDistinct := by
    cases outcome with
    | error refusal => exact distinct
    | ok after => exact done after rfl
  rw [Clients.step]
  cases request.operation with
  | createClient client =>
      refine committed fun after done => ?_
      unfold Clients.createClient at done
      obtain ⟨name, _, done⟩ := bind_eq_ok.mp done
      dsimp only at done
      split at done
      · cases done
      · obtain ⟨_, _, done⟩ := bind_eq_ok.mp done
        cases done
        have same (email : String) : (clients.ownerAccount host email).1.tenants =
            clients.tenants := ownerAccount_frame clients email
        have opened := slugsDistinct_open host distinct
          (same (host.unicode.lower (strip client.ownerEmail))) name client.fiche
        exact opened 0
  | register signUp =>
      refine committed fun after done => ?_
      unfold Clients.register at done
      dsimp only at done
      split at done
      · cases done
      · split at done
        · rename_i created
          cases done
          refine slugsDistinct_createTenantWithOwner distinct ?_ created
          rfl
        · cases done
  | convert key =>
      dsimp only
      unfold Clients.convert
      have user (email : String) := (getOrCreateUser_frame clients email).1
      split
      · exact distinct
      · split
        · exact distinct
        · dsimp only
          split
          · rw [Clients.SlugsDistinct, user]
            exact distinct
          · rename_i created
            have opened := slugsDistinct_createTenantWithOwner distinct (user _) created
            exact opened
  | updateTenant key changes =>
      refine committed fun after done => ?_
      obtain ⟨_, found, done⟩ := bind_eq_ok.mp done
      obtain ⟨_, _, done⟩ := bind_eq_ok.mp done
      cases done
      exact slugsDistinct_modify distinct found (by intro _; rfl) rfl rfl
  | archiveTenant key actor reason =>
      refine committed fun after done => ?_
      obtain ⟨_, found, done⟩ := bind_eq_ok.mp done
      split at done
      · cases done
        exact distinct
      · obtain ⟨_, _, done⟩ := bind_eq_ok.mp done
        cases done
        exact slugsDistinct_modify distinct found (by intro _; rfl) rfl rfl
  | restoreTenant key =>
      refine committed fun after done => ?_
      obtain ⟨_, found, done⟩ := bind_eq_ok.mp done
      split at done
      · cases done
        exact distinct
      · cases done
        exact slugsDistinct_modify distinct found (by intro _; rfl) rfl rfl

end Slugs

/-- Over every sequence of openings, renamings, archivings and restorations, a slug names one
tenant. -/
theorem slugsDistinct_always (host : Host) (start : Clients) (distinct : start.SlugsDistinct)
    (requests : List TenantRequest) :
    Always (Clients.step host) Clients.SlugsDistinct start requests :=
  always_of_step (P := Clients.SlugsDistinct)
    (fun _ request distinct => slugsDistinct_step distinct request) distinct requests

/-! ## A name taken twice -/

/-- A platform for examples: texts are kept as they are. -/
def plainHost : Host where
  unicode := ⟨id, id, fun _ => true⟩
  upper := id
  slugify := id
  sha256 := id
  makePassword := id

def newPlatform : Clients where
  tenants := Table.empty
  users := Table.empty
  members := Table.empty
  links := Table.empty
  demoRequests := Table.empty
  billing := ⟨Table.empty, Table.empty, []⟩

def signUpOf (email : String) : TenantRequest where
  settings := ⟨10, "", 14⟩
  now := 0
  operation := .register ⟨email, "secret", "ACME"⟩

/-- Two companies sign up under one name. -/
theorem name_taken_twice :
    ¬ Always (Clients.step plainHost) (Clients.NamesDistinct plainHost) newPlatform
      [signUpOf "a@acme.fr", signUpOf "b@acme.fr"] := by
  intro always
  have same := always.last (Tenant.opened "ACME" "ACME" {} 0) (by decide +kernel)
    (Tenant.opened "ACME" "ACME-2" {} 1) (by decide +kernel) rfl rfl rfl
  cases congrArg Tenant.id same

/-- The two companies have two slugs. -/
theorem slugsDistinct_always_twice :
    Always (Clients.step plainHost) Clients.SlugsDistinct newPlatform
      [signUpOf "a@acme.fr", signUpOf "b@acme.fr"] :=
  slugsDistinct_always plainHost newPlatform (fun _ inside => absurd inside List.not_mem_nil) _

end RssiService.Tenants
