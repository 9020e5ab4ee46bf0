import RssiService.AccessRequests.Requests

/-!
# Concluded requests

A request that is concluded keeps its status, and its grant was executed exactly if it was
accepted.  The operations of the desk do not see to that: each of them saves over whatever
was saved since it has loaded the request.
-/

namespace RssiService.AccessRequests

open Foundation Foundation.Run Foundation.Interleaving

/-! ## The law and its condition -/

/-- The grant was executed exactly if the request was accepted; while the request is open, it
was executed only by an operation that is still to save. -/
structure AccessRequest.Settled (row : AccessRequest) : Prop where
  executed : 0 < row.history.executions →
    row.status = .granted ∨ row.isOpen = true ∧ 0 < row.history.standing
  accepted : row.status = .granted → row.grants = true → 0 < row.history.executions

namespace Desk

def Settled (desk : Desk) : Prop := ∀ row ∈ desk.requests, row.Settled

/-- A request that is concluded stays, with the status it has. -/
def Kept (before after : Desk) : Prop :=
  ∀ row ∈ before.requests, row.isOpen = false →
    ∃ later ∈ after.requests, later.id = row.id ∧ later.status = row.status

end Desk

/-- The request is open or has the status already, and a status that concludes it goes with
what was executed. -/
structure AccessRequest.Accepts (row : AccessRequest) (status : Status) : Prop where
  current : row.isOpen = true ∨ row.status = status
  granting : status = .granted → row.grants = true → 0 < row.history.executions
  denying : status = .declined ∨ status = .cancelled → row.history.executions = 0

/-- A save that the constraint lets through finds the request as it must be, the grant finds
it open or accepted, and where an operation fails after the grant, the request is closed or
another one that has executed the grant goes on. -/
def Desk.Fits (desk : Desk) : DeskWrite → Prop
  | .creer _ _ | .modifier _ _ => True
  | .accorder key tenant referential actor =>
      (desk.granted tenant referential actor).isOk = true →
        ∀ row ∈ desk.requests, row.id = key → row.isOpen = true ∨ row.status = .granted
  | .enregistrer key suivi =>
      UniqueOpen (desk.requests.modify key (AccessRequest.followed suivi)
          (AccessRequest.ident_followed suivi)) →
        ∀ row ∈ desk.requests, row.id = key → row.Accepts suivi.status
  | .interrompre key =>
      ∀ row ∈ desk.requests, row.id = key → row.isOpen = true →
        0 < row.history.executions → 1 < row.history.standing

/-! ## One write -/

section Rows

variable {row : AccessRequest}

theorem AccessRequest.isOpen_congr {later : AccessRequest} (same : later.status = row.status) :
    later.isOpen = row.isOpen := by
  rw [AccessRequest.isOpen, AccessRequest.isOpen, same]

theorem not_open_of_granted (granted : row.status = .granted) : row.isOpen = false := by
  rw [AccessRequest.isOpen, granted]
  rfl

/-- A request is open, accepted, or concluded without a grant. -/
theorem open_or_concluded (row : AccessRequest) :
    row.isOpen = true ∨ row.status = .granted ∨
      row.status = .declined ∨ row.status = .cancelled := by
  rw [AccessRequest.isOpen]
  cases row.status <;> decide

theorem not_open_of_denied (denied : row.status = .declined ∨ row.status = .cancelled) :
    row.isOpen = false ∧ row.status ≠ .granted := by
  rw [AccessRequest.isOpen]
  rcases denied with same | same <;> rw [same] <;> decide

/-- Nothing was executed for a request that was not accepted. -/
theorem AccessRequest.Settled.executions_eq_zero (settled : row.Settled)
    (denied : row.status = .declined ∨ row.status = .cancelled) : row.history.executions = 0 := by
  obtain ⟨closed, refused⟩ := not_open_of_denied denied
  by_contra executed
  rcases settled.executed (Nat.pos_of_ne_zero executed) with granted | ⟨stillOpen, _⟩
  · exact refused granted
  · rw [closed] at stillOpen
    cases stillOpen

theorem executed_iff (row : AccessRequest) :
    (row.record History.executed).Settled ∧
        (row.isOpen = false → (row.record History.executed).status = row.status) ↔
      row.isOpen = true ∨ row.status = .granted := by
  constructor
  · rintro ⟨later, _⟩
    rcases later.executed (Nat.succ_pos _) with granted | ⟨stillOpen, _⟩
    · exact Or.inr granted
    · exact Or.inl stillOpen
  · intro found
    refine ⟨⟨fun _ => ?_, fun _ _ => Nat.succ_pos _⟩, fun _ => rfl⟩
    rcases found with stillOpen | granted
    · exact Or.inr ⟨stillOpen, Nat.succ_pos _⟩
    · exact Or.inl granted

theorem failed_iff (settled : row.Settled) :
    (row.record History.failed).Settled ∧
        (row.isOpen = false → (row.record History.failed).status = row.status) ↔
      (row.isOpen = true → 0 < row.history.executions → 1 < row.history.standing) := by
  constructor
  · rintro ⟨later, _⟩ stillOpen executed
    rcases later.executed executed with granted | ⟨_, standing⟩
    · exact absurd (not_open_of_granted granted) (Bool.not_eq_false _ ▸ stillOpen)
    · exact Nat.lt_of_sub_pos standing
  · intro others
    refine ⟨⟨fun executed => ?_, settled.accepted⟩, fun _ => rfl⟩
    rcases settled.executed executed with granted | ⟨stillOpen, _⟩
    · exact Or.inl granted
    · exact Or.inr ⟨stillOpen, Nat.sub_pos_of_lt (others stillOpen executed)⟩

/-- A save keeps the law where the request accepts its status. -/
theorem followed_iff (settled : row.Settled) (suivi : Suivi) :
    (row.followed suivi).Settled ∧
        (row.isOpen = false → (row.followed suivi).status = row.status) ↔
      row.Accepts suivi.status := by
  constructor
  · rintro ⟨later, kept⟩
    refine ⟨?_, later.accepted, fun denied => ?_⟩
    · cases stillOpen : row.isOpen with
      | true => exact Or.inl rfl
      | false => exact Or.inr (kept stillOpen).symm
    · exact later.executions_eq_zero denied
  · intro accepts
    refine ⟨⟨fun executed => ?_, accepts.granting⟩, fun closed => ?_⟩
    · rcases open_or_concluded (row.followed suivi) with stillOpen | granted | denied
      · refine Or.inr ⟨stillOpen, ?_⟩
        have found : row.isOpen = true := by
          rcases accepts.current with found | same
          · exact found
          · exact (AccessRequest.isOpen_congr same.symm).symm.trans stillOpen
        rcases settled.executed executed with granted | ⟨_, standing⟩
        · rw [not_open_of_granted granted] at found
          cases found
        · exact standing
      · exact Or.inl granted
      · exact absurd (accepts.denying denied) executed.ne'
    · rcases accepts.current with stillOpen | same
      · rw [closed] at stillOpen
        cases stillOpen
      · exact same.symm

end Rows

section Writes

variable {desk after : Desk} {key : Nat}

theorem Desk.Kept.refl (desk : Desk) : desk.Kept desk :=
  fun row inside _ => ⟨row, inside, rfl, rfl⟩

theorem Desk.Kept.trans {first second third : Desk} (early : first.Kept second)
    (late : second.Kept third) : first.Kept third := by
  intro row inside closed
  obtain ⟨later, known, key, status⟩ := early row inside closed
  obtain ⟨last, listed, same, final⟩ :=
    late later known ((AccessRequest.isOpen_congr status).trans closed)
  exact ⟨last, listed, same.trans key, final.trans status⟩

theorem law_of_requests (settled : desk.Settled) (same : after.requests = desk.requests) :
    after.Settled ∧ desk.Kept after := by
  constructor
  · intro row inside
    rw [same] at inside
    exact settled row inside
  · intro row inside _
    exact ⟨row, same ▸ inside, rfl, rfl⟩

/-- The law over an update of one request, row by row. -/
theorem law_modify_iff (settled : desk.Settled) {change : AccessRequest → AccessRequest}
    (keeps : ∀ row, ident (change row) = ident row)
    (modified : after.requests = desk.requests.modify key change keeps)
    {fits : AccessRequest → Prop}
    (exact_row : ∀ row : AccessRequest, row.Settled →
      ((change row).Settled ∧ (row.isOpen = false → (change row).status = row.status) ↔
        fits row)) :
    after.Settled ∧ desk.Kept after ↔ ∀ row ∈ desk.requests, row.id = key → fits row := by
  constructor
  · rintro ⟨later, kept⟩ row inside mine
    have changed : change row ∈ after.requests := by
      rw [modified]
      exact Table.mem_modify.mpr ⟨row, inside, if_pos mine⟩
    refine (exact_row row (settled row inside)).mp ⟨later _ changed, fun closed => ?_⟩
    obtain ⟨other, known, same, status⟩ := kept row inside closed
    cases Table.ident_injective known changed (same.trans (keeps row).symm)
    exact status
  · intro each
    constructor
    · rw [Desk.Settled, modified, Table.forall_mem_modify]
      intro row inside
      split
      · next mine => exact ((exact_row row (settled row inside)).mpr (each row inside mine)).1
      · exact settled row inside
    · intro row inside closed
      refine ⟨if ident row = key then change row else row, ?_, ?_⟩
      · rw [modified]
        exact Table.mem_modify.mpr ⟨row, inside, rfl⟩
      · split
        · next mine =>
            exact ⟨keeps row,
              ((exact_row row (settled row inside)).mpr (each row inside mine)).2 closed⟩
        · exact ⟨rfl, rfl⟩

theorem mem_created {submission : Submission} {label : String} {row : AccessRequest} :
    row ∈ desk.requests.create (submission.row label) (submission.ident_row label) ↔
      row ∈ desk.requests ∨ row = submission.row label desk.requests.next := Table.mem_create

/-- A request that comes in is open and nothing was done for it. -/
theorem law_create (settled : desk.Settled) (submission : Submission) (label : String) :
    (desk.apply (.creer submission label)).Settled ∧
      desk.Kept (desk.apply (.creer submission label)) := by
  rw [Desk.apply, Desk.put]
  split
  · constructor
    · intro row inside
      rcases mem_created.mp inside with old | rfl
      · exact settled row old
      · exact ⟨fun executed => absurd executed (Nat.lt_irrefl 0), nofun⟩
    · exact fun row inside _ => ⟨row, mem_created.mpr (Or.inl inside), rfl, rfl⟩
  · exact law_of_requests settled rfl

/-- The law over one write. -/
theorem law_apply_iff (settled : desk.Settled) (change : DeskWrite) :
    (desk.apply change).Settled ∧ desk.Kept (desk.apply change) ↔ desk.Fits change := by
  cases change with
  | creer submission label => exact iff_of_true (law_create settled submission label) trivial
  | modifier catalogue billing => exact iff_of_true (law_of_requests settled rfl) trivial
  | accorder key tenant referential actor =>
      rw [Desk.apply, Desk.Fits]
      cases desk.granted tenant referential actor with
      | error error => exact iff_of_true (law_of_requests settled rfl) nofun
      | ok catalogue =>
          refine (law_modify_iff settled (AccessRequest.ident_record _) rfl
            fun row _ => executed_iff row).trans ?_
          exact ⟨fun each _ => each, fun each => each rfl⟩
  | enregistrer key suivi =>
      rw [Desk.apply, Desk.Fits, Desk.put]
      split
      · next unique =>
          refine (law_modify_iff settled (AccessRequest.ident_followed suivi) rfl
            fun row settled => followed_iff settled suivi).trans ?_
          exact ⟨fun each _ => each, fun each => each unique⟩
      · next refused =>
          exact iff_of_true (law_of_requests settled rfl) fun unique => absurd unique refused
  | interrompre key =>
      exact law_modify_iff settled (AccessRequest.ident_record _) rfl
        fun row settled => failed_iff settled

end Writes

/-! ## Schedules -/

/-- Through a schedule of the desk, the grants executed are those of the accepted requests and
no concluded request changes its status, exactly where each write fits the requests it finds. -/
theorem settled_and_kept_iff (start : Desk) (moments : List (Moment DeskRequest)) :
    Always (step Desk.apply DeskRequest.program) (fun session => session.state.Settled)
        (.start start) moments ∧
      Related (step Desk.apply DeskRequest.program)
        (fun earlier later => earlier.state.Kept later.state) (.start start) moments ↔
    start.Settled ∧
      EachStep (step Desk.apply DeskRequest.program) (WriteMeets Desk.Fits) (.start start)
        moments :=
  always_and_related_iff (P := Desk.Settled) Desk.Kept.refl (fun _ _ _ => Desk.Kept.trans)
    (fun _ change settled => law_apply_iff settled change) (.start start) moments

/-! A client withdraws its request while an operator accepts it. -/

def hygieneRequest : AccessRequest :=
  ⟨0, 1, "referential", "hygiene", "Guide d'hygiène", "", some 7, 100, .pending, "", none, none,
    ⟨0, 0⟩⟩

def hygieneDesk : Desk where
  requests := ⟨[hygieneRequest], 1, by decide, by decide⟩
  catalogue :=
    { Assessments.Database.empty with
      referentials := ⟨[⟨0, "hygiene", none, true,
        ⟨"Guide d'hygiène", "2017", "", "ANSSI", "", "", ""⟩⟩], 1, by decide, by decide⟩
      assessed := fun _ absent => (Table.not_mem_empty _ absent).elim }
  billing := ⟨Table.empty, Table.empty, []⟩
  uniqueOpen := by decide

/-- The operator has granted the referential; the client withdraws its request. -/
def withdrawnAfterGrant : List (Moment DeskRequest) :=
  [.arrive 0 (.advanceRequest ⟨0, .granted, "", some 11, 200, false⟩), .advance 0, .advance 0,
    .advance 0, .arrive 1 (.cancelRequest 0 1 (some 7) 210), .advance 1, .advance 1]

/-- The operation fails once the referential is granted. -/
def failedAfterGrant : List (Moment DeskRequest) :=
  [.arrive 0 (.advanceRequest ⟨0, .granted, "", some 11, 200, true⟩), .advance 0, .advance 0,
    .advance 0, .advance 0]

/-- The request that was withdrawn is accepted when the operator saves it, and the referential
of the one that failed is granted while its request is pending. -/
theorem conclusion_overwritten :
    ¬Related (step Desk.apply DeskRequest.program)
        (fun earlier later => earlier.state.Kept later.state) (.start hygieneDesk)
        (withdrawnAfterGrant ++ [.advance 0]) ∧
      ¬Always (step Desk.apply DeskRequest.program) (fun session => session.state.Settled)
        (.start hygieneDesk) failedAfterGrant := by
  constructor
  · intro related
    have cancelled : ∃ row ∈ (after (step Desk.apply DeskRequest.program) (.start hygieneDesk)
        withdrawnAfterGrant).state.requests.rows,
        row.isOpen = false ∧ row.status = .cancelled := by
      decide +kernel
    have accepted : ∀ row ∈ (after (step Desk.apply DeskRequest.program) (.start hygieneDesk)
        (withdrawnAfterGrant ++ [.advance 0])).state.requests.rows, row.status = .granted := by
      decide +kernel
    obtain ⟨row, inside, closed, status⟩ := cancelled
    obtain ⟨later, known, _, same⟩ := related.last row inside closed
    rw [accepted later known, status] at same
    cases same
  · intro always
    have executed : ∃ row ∈ (after (step Desk.apply DeskRequest.program) (.start hygieneDesk)
        failedAfterGrant).state.requests.rows,
        row.status = .pending ∧ row.history = ⟨1, 0⟩ := by
      decide +kernel
    obtain ⟨row, inside, status, history⟩ := executed
    rcases (always.last row inside).executed (history ▸ Nat.one_pos) with granted | ⟨_, standing⟩
    · rw [status] at granted
      cases granted
    · rw [history] at standing
      cases standing

end RssiService.AccessRequests
