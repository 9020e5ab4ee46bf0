import RssiService.Billing.Commitment
import RssiService.Tenants.Names

/-!
# A conversion that is refused

The conversion of a request for a demonstration looks for the account of the
prospect, or creates it, before the transaction that opens the tenant.
-/

namespace RssiService.Tenants

open Foundation Python

/-! ## Traces -/

/-- Nothing is there that was not there before. -/
structure NoTrace (before after : Clients) : Prop where
  users : ∀ row ∈ after.users, row ∈ before.users
  tenants : ∀ row ∈ after.tenants, row ∈ before.tenants
  members : ∀ row ∈ after.members, row ∈ before.members
  subscriptions : ∀ row ∈ after.billing.subscriptions, row ∈ before.billing.subscriptions
  events : ∀ event ∈ after.billing.events, event ∈ before.billing.events

theorem NoTrace.refl (clients : Clients) : NoTrace clients clients where
  users _ inside := inside
  tenants _ inside := inside
  members _ inside := inside
  subscriptions _ inside := inside
  events _ inside := inside

/-- The account of a prospect is there already. -/
def Clients.knows (clients : Clients) (email : String) : Prop :=
  ∃ user ∈ clients.users, user.email = email

/-- The name of the company is taken, the account of the prospect is there already, or the pool has
room for a trial. -/
def Clients.RefusesCleanly (settings : Billing.Settings) (clients : Clients) (key : Nat) : Prop :=
  ∀ demande, clients.demoRequests.find? key = some demande →
    (∃ row ∈ clients.tenants, row.name = demande.company) ∨ clients.knows demande.email ∨
      clients.lacksRoom settings = false

/-! ## The account of the prospect -/

section Conversions

variable {host : Host} {settings : Billing.Settings} {now : Nat} {clients : Clients}

theorem getOrCreateUser_of_knows {email : String} (known : clients.knows email) :
    (clients.getOrCreateUser email).1 = clients := by
  obtain ⟨user, inside, same⟩ := known
  rw [Clients.getOrCreateUser]
  cases found : clients.users.rows.find? fun row => row.email = email with
  | some _ => rfl
  | none =>
      have absent := List.find?_eq_none.mp found user inside
      exact absurd (decide_eq_true same) absent

/-- A prospect who has no account gets one. -/
theorem getOrCreateUser_of_not_knows {email : String} (unknown : ¬ clients.knows email) :
    ∃ row, row ∈ (clients.getOrCreateUser email).1.users ∧ row ∉ clients.users := by
  rw [Clients.getOrCreateUser]
  cases found : clients.users.rows.find? fun row => row.email = email with
  | some user =>
      have same := List.find?_some found
      exact absurd ⟨user, List.mem_of_find?_eq_some found, of_decide_eq_true same⟩ unknown
  | none =>
      refine ⟨_, Table.mem_create.mpr (Or.inr rfl), ?_⟩
      intro inside
      exact unknown ⟨_, inside, rfl⟩

/-- With an account the refusal of the pool leaves nothing, and without one it leaves an
account. -/
theorem noTrace_getOrCreateUser_iff {email : String} :
    NoTrace clients (clients.getOrCreateUser email).1 ↔ clients.knows email := by
  constructor
  · intro clean
    by_contra unknown
    obtain ⟨row, created, new⟩ := getOrCreateUser_of_not_knows unknown
    exact new (clean.users row created)
  · intro known
    rw [getOrCreateUser_of_knows known]
    exact NoTrace.refl clients

end Conversions

/-- On every platform, a conversion that is refused leaves no trace exactly when the name is taken,
the prospect has an account already, or the pool is not what refuses. -/
theorem refused_conversion_leaves_no_trace_iff (host : Host) (settings : Billing.Settings)
    (now : Nat) (clients : Clients) (key : Nat) :
    (∀ refusal, (clients.convert host settings now key).2 = .error refusal →
        NoTrace clients (clients.convert host settings now key).1) ↔
      clients.RefusesCleanly settings key := by
  rw [Clients.convert, Clients.RefusesCleanly]
  cases clients.demoRequests.find? key with
  | none =>
      refine iff_of_true (fun _ _ => NoTrace.refl clients) ?_
      intro demande known
      cases known
  | some demande =>
      simp only [Option.some.injEq, forall_eq']
      have taken : (clients.tenants.rows.any fun row => row.name = demande.company) = true ↔
          ∃ row ∈ clients.tenants, row.name = demande.company := by
        simp [List.any_eq_true, Table.mem_def]
      rw [← taken]
      cases clients.tenants.rows.any fun row => row.name = demande.company with
      | true => exact iff_of_true (fun _ _ => NoTrace.refl clients) (Or.inl rfl)
      | false =>
          rw [or_iff_right Bool.false_ne_true]
          obtain ⟨tenants, billing⟩ := getOrCreateUser_frame clients demande.email
          rcases createTenantWithOwner_cases host settings now tenants billing demande.company
              (clients.getOrCreateUser demande.email).2 {} with
            ⟨full, refusal, refused⟩ | ⟨room, opened, _, opens, _⟩
          · simp only [refused, full, if_neg Bool.false_ne_true]
            rw [or_iff_left (by decide), ← noTrace_getOrCreateUser_iff]
            exact ⟨fun clean => clean _ rfl, fun clean _ _ => clean⟩
          · simp only [opens, if_neg Bool.false_ne_true]
            refine iff_of_true ?_ (Or.inr room)
            rintro _ ⟨⟩

/-! ## A trace -/

/-- A request for a demonstration, and a pool with no room for the trial. -/
def fullPlatform : Clients where
  tenants := Table.empty
  users := Table.empty
  members := Table.empty
  links := Table.empty
  demoRequests := ⟨[⟨0, "Acme", "dirigeant@acme.fr", .won⟩], 1, by decide, by decide⟩
  billing := Billing.soloCatalogue

def fullPool : Billing.Settings := ⟨0, "solo", 14⟩

/-- The conversion is refused for capacity and leaves the account of the prospect behind. -/
theorem refused_conversion_leaves_an_account :
    ¬ ∀ refusal, (fullPlatform.convert plainHost fullPool 0 0).2 = .error refusal →
      NoTrace fullPlatform (fullPlatform.convert plainHost fullPool 0 0).1 := by
  intro clean
  have created : (fullPlatform.convert plainHost fullPool 0 0).1.users.rows =
      [⟨0, "dirigeant@acme.fr", none, true, false, false⟩] := by
    decide +kernel
  have refused : ∃ refusal, (fullPlatform.convert plainHost fullPool 0 0).2 = .error refusal :=
    ⟨_, rfl⟩
  obtain ⟨refusal, refused⟩ := refused
  have inside : (⟨0, "dirigeant@acme.fr", none, true, false, false⟩ : Accounts.User) ∈
      (fullPlatform.convert plainHost fullPool 0 0).1.users := by
    rw [Table.mem_def, created]
    exact List.mem_singleton_self _
  exact absurd ((clean refusal refused).users _ inside) List.not_mem_nil

end RssiService.Tenants
