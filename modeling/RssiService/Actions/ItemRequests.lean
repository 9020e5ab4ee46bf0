import RssiService.Actions.ActionItems

/-!
# Requests on an action item

A request may change the status, the assignee, the note and the due date of an item at once.
The services write one after the other, and the one that assigns may refuse.
-/

namespace RssiService.Actions

open Foundation
open Tenants (Directory Membership)

/-! ## The body -/

/-- What the framework makes of a field of the body. -/
inductive Field (Value : Type) where
  | absent
  | refused (messages : List String)
  | given (value : Value)
  deriving DecidableEq, Repr

def Field.errors {Value : Type} (name : String) : Field Value → List (String × List String)
  | .refused messages => [(name, messages)]
  | .absent | .given _ => []

def Field.value? {Value : Type} : Field Value → Option Value
  | .given value => some value
  | .absent | .refused _ => none

structure ActionItemUpdateSerializer where
  status : Field Status
  dueDate : Field (Option Nat)
  assignee : Field (Option Nat)
  note : Field String
  deriving DecidableEq, Repr

/-- The data of the body, with the fields it has. -/
structure ValidatedData where
  status : Option Status
  dueDate : Option (Option Nat)
  assignee : Option (Option Nat)
  note : Option String
  deriving DecidableEq, Repr

abbrev Errors := List (String × List String)

/-- The data, where no field is refused. -/
def ActionItemUpdateSerializer.isValid (serializer : ActionItemUpdateSerializer) :
    Except Errors ValidatedData :=
  let errors := serializer.status.errors "status" ++ serializer.dueDate.errors "due_date" ++
    serializer.assignee.errors "assignee" ++ serializer.note.errors "note"
  if errors.isEmpty then
    .ok
      { status := serializer.status.value?
        dueDate := serializer.dueDate.value?
        assignee := serializer.assignee.value?
        note := serializer.note.value? }
  else .error errors

/-! ## The view -/

/-- Who asks: whether the account is known, and its membership in the company of the header. -/
structure Caller where
  authenticated : Bool
  membership : Option Membership
  deriving DecidableEq, Repr

inductive Refusal where
  | notAuthenticated
  | permissionDenied (message : String)
  | notFound (message : String)
  | invalid (errors : Errors)
  | assignee (message : String)
  deriving DecidableEq, Repr

/-- The member who may write, or the refusal. -/
def Caller.writer (caller : Caller) : Except Refusal Membership :=
  if !caller.authenticated then .error .notAuthenticated
  else
    match caller.membership with
    | none =>
        .error (.permissionDenied
          "Sélectionnez une entreprise valide (en-tête X-Tenant-Id) pour accéder à cette ressource.")
    | some member =>
        if member.role = .reader then
          .error (.permissionDenied "Le rôle lecteur ne permet pas de modifier cette ressource.")
        else .ok member

def getActionItem (items : Table ActionItem) (tenant key : Nat) : Option ActionItem :=
  items.rows.find? fun item => item.tenant = tenant && item.id = key

def withStatus (item : ActionItem) (data : ValidatedData) (now : Nat) : ActionItem :=
  match data.status with
  | some value => updateStatus item value now
  | none => item

def withNote (item : ActionItem) (data : ValidatedData) (now : Nat) : ActionItem :=
  match data.note with
  | some note => setNote item note now
  | none => item

def withDueDate (item : ActionItem) (data : ValidatedData) (now : Nat) : ActionItem :=
  match data.dueDate with
  | some day => setDueDate item day now
  | none => item

/-- The item as the services leave it, and the refusal of the assignment. -/
def writeItem (directory : Directory) (now : Nat) (item : ActionItem) (data : ValidatedData) :
    ActionItem × Option ActionsError :=
  let item := withStatus item data now
  match data.assignee with
  | some user =>
      match assignActionItem directory item user now with
      -- What was written before the refusal stays.
      | .error refusal => (item, some refusal)
      | .ok item => (withDueDate (withNote item data now) data now, none)
  | none => (withDueDate (withNote item data now) data now, none)

section Subjects

variable {directory : Directory} {now : Nat} {item : ActionItem} {data : ValidatedData}

theorem sameSubject_withStatus : SameSubject item (withStatus item data now) := by
  rw [withStatus]
  cases data.status <;> exact ⟨rfl, rfl, rfl, rfl, rfl⟩

theorem id_withNote : (withNote item data now).id = item.id := by
  rw [withNote]
  cases data.note <;> rfl

theorem id_withDueDate : (withDueDate item data now).id = item.id := by
  rw [withDueDate]
  cases data.dueDate <;> rfl

theorem id_writeItem : (writeItem directory now item data).1.id = item.id := by
  have status : (withStatus item data now).id = item.id := sameSubject_withStatus.id
  rw [writeItem]
  split
  · split
    · exact status
    · rename_i accepted
      rw [id_withDueDate, id_withNote, assignActionItem_ok accepted]
      exact status
  · rw [id_withDueDate, id_withNote, status]

end Subjects

inductive Reply where
  | ok (item : ActionItem)
  | refused (refusal : Refusal)
  deriving DecidableEq, Repr

/-- The items once the services have run, and the reply. -/
def replyTo (directory : Directory) (now : Nat) (items : Table ActionItem) (item : ActionItem)
    (data : ValidatedData) : Table ActionItem × Reply :=
  let written := items.modify item.id (fun row => (writeItem directory now row data).1)
    fun _ => id_writeItem
  match writeItem directory now item data with
  | (_, some (.invalidAssignee message)) => (written, .refused (.assignee message))
  | (after, none) => (written, .ok after)

/-- `ActionItemDetailView.patch`: the items afterwards, and the reply. -/
def patch {Body : Type} (validate : Body → Except Errors ActionItemUpdateSerializer)
    (directory : Directory) (now : Nat) (items : Table ActionItem) (caller : Caller) (key : Nat)
    (body : Body) : Table ActionItem × Reply :=
  match caller.writer with
  | .error refusal => (items, .refused refusal)
  | .ok member =>
      match getActionItem items member.tenant key with
      | none => (items, .refused (.notFound "Action introuvable."))
      | some item =>
          match validate body >>= ActionItemUpdateSerializer.isValid with
          | .error errors => (items, .refused (.invalid errors))
          | .ok data => replyTo directory now items item data

/-! ## Refusals -/

/-- A request that is refused leaves the items exactly as they were. -/
def RefusedUntouched (outcome : Table ActionItem × Reply) (items : Table ActionItem) : Prop :=
  ∀ refusal, outcome.2 = .refused refusal → outcome.1 = items

/-- The item already has the status, with the dates it is written with. -/
def AlreadyHas (item : ActionItem) (value : Status) (now : Nat) : Prop :=
  item.status = value ∧ item.completedAt = (if value = .done then some now else none) ∧
    item.updatedAt = now

/-- A member who may write asks for a status that the item does not have already, and for an
assignee who is no member of the company. -/
def StatusWithStranger {Body : Type} (validate : Body → Except Errors ActionItemUpdateSerializer)
    (directory : Directory) (now : Nat) (items : Table ActionItem) (caller : Caller) (key : Nat)
    (body : Body) : Prop :=
  ∃ member item data value user, caller.writer = .ok member ∧
    getActionItem items member.tenant key = some item ∧
    validate body >>= ActionItemUpdateSerializer.isValid = .ok data ∧
    data.status = some value ∧ ¬AlreadyHas item value now ∧
    data.assignee = some (some user) ∧ directory.isMember item.tenant user = false

section Refusals

variable {directory : Directory} {now : Nat} {item : ActionItem} {data : ValidatedData}
  {value : Status} {items : Table ActionItem}

theorem updateStatus_eq_self_iff :
    updateStatus item value now = item ↔ AlreadyHas item value now := by
  constructor
  · intro same
    exact ⟨(congrArg ActionItem.status same).symm, (congrArg ActionItem.completedAt same).symm,
      (congrArg ActionItem.updatedAt same).symm⟩
  · rintro ⟨status, completed, updated⟩
    rw [updateStatus, ← completed, ← status, ← updated]

/-- Nobody, or a member, is assigned; anybody else is refused. -/
theorem assignActionItem_error_iff {user : Option Nat} :
    (∃ refusal, assignActionItem directory item user now = .error refusal) ↔
      ∃ stranger, user = some stranger ∧ directory.isMember item.tenant stranger = false := by
  rw [assignActionItem]
  cases user with
  | none => exact iff_of_false (by rintro ⟨_, ⟨⟩⟩) (by rintro ⟨_, ⟨⟩, _⟩)
  | some user =>
      rw [Option.any_some]
      cases member : directory.isMember item.tenant user with
      | true =>
          refine iff_of_false (by rintro ⟨_, ⟨⟩⟩) ?_
          rintro ⟨_, ⟨⟩, refused⟩
          exact Bool.false_ne_true (refused.symm.trans member)
      | false => exact iff_of_true ⟨_, rfl⟩ ⟨user, rfl, member⟩

theorem withStatus_eq_self_iff :
    withStatus item data now = item ↔ ∀ value, data.status = some value →
      AlreadyHas item value now := by
  rw [withStatus]
  cases data.status with
  | none => exact iff_of_true rfl (by rintro _ ⟨⟩)
  | some value =>
      rw [updateStatus_eq_self_iff]
      constructor
      · rintro already _ ⟨⟩
        exact already
      · exact fun all => all value rfl

/-- A refusal of the assignment comes after the status is written. -/
theorem writeItem_cases (directory : Directory) (now : Nat) (item : ActionItem)
    (data : ValidatedData) :
    (∃ stranger, data.assignee = some (some stranger) ∧
      directory.isMember item.tenant stranger = false ∧
      ∃ refusal, writeItem directory now item data = (withStatus item data now, some refusal)) ∨
    ((∀ stranger, data.assignee = some (some stranger) →
      directory.isMember item.tenant stranger = true) ∧
      (writeItem directory now item data).2 = none) := by
  have tenant : (withStatus item data now).tenant = item.tenant := sameSubject_withStatus.tenant
  rw [writeItem]
  cases assigned : data.assignee with
  | none => exact .inr ⟨by rintro _ ⟨⟩, rfl⟩
  | some user =>
      cases written : assignActionItem directory (withStatus item data now) user now with
      | error refusal =>
          obtain ⟨stranger, rfl, outside⟩ := assignActionItem_error_iff.mp ⟨refusal, written⟩
          dsimp only
          rw [written]
          exact .inl ⟨stranger, rfl, tenant ▸ outside, refusal, rfl⟩
      | ok after =>
          dsimp only
          rw [written]
          refine .inr ⟨?_, rfl⟩
          rintro stranger ⟨⟩
          by_contra outside
          rw [Bool.not_eq_true, ← tenant] at outside
          obtain ⟨refusal, rejected⟩ := assignActionItem_error_iff.mpr ⟨stranger, rfl, outside⟩
          rw [written] at rejected
          cases rejected

theorem find?_of_getActionItem {tenant key : Nat}
    (found : getActionItem items tenant key = some item) : items.find? item.id = some item :=
  Table.find?_eq_some_iff.mpr ⟨List.mem_of_find?_eq_some found, rfl⟩

/-- The services refuse without a trace where no status changes. -/
theorem refusedUntouched_replyTo_iff (found : items.find? item.id = some item) :
    RefusedUntouched (replyTo directory now items item data) items ↔
      ¬∃ value stranger, data.status = some value ∧ ¬AlreadyHas item value now ∧
        data.assignee = some (some stranger) ∧
        directory.isMember item.tenant stranger = false := by
  rw [replyTo]
  rcases writeItem_cases directory now item data with
    ⟨stranger, assigned, outside, ⟨message⟩, written⟩ | ⟨members, written⟩
  · have kept : items.modify item.id (fun row => (writeItem directory now row data).1)
          (fun _ => id_writeItem) = items ↔ withStatus item data now = item := by
      rw [Table.modify_eq_self_iff, found]
      constructor
      · intro same
        have here := same item rfl
        rwa [written] at here
      · rintro same _ ⟨⟩
        rwa [written]
    rw [written]
    constructor
    · rintro untouched ⟨value, _, asked, changes, _⟩
      exact changes (withStatus_eq_self_iff.mp (kept.mp (untouched _ rfl)) value asked)
    · intro already refusal _
      refine kept.mpr (withStatus_eq_self_iff.mpr fun value asked => ?_)
      by_contra changes
      exact already ⟨value, stranger, asked, changes, assigned, outside⟩
  · have saved : writeItem directory now item data =
        ((writeItem directory now item data).1, none) := Prod.ext rfl written
    rw [saved]
    refine iff_of_true (by rintro _ ⟨⟩) ?_
    rintro ⟨_, stranger, _, _, asked, outside⟩
    exact Bool.false_ne_true (outside.symm.trans (members stranger asked))

end Refusals

/-- A refusal leaves the items as they were exactly where the request does not give a new
status with an assignee who is no member. -/
theorem refused_untouched_iff {Body : Type}
    (validate : Body → Except Errors ActionItemUpdateSerializer) (directory : Directory)
    (now : Nat) (items : Table ActionItem) (caller : Caller) (key : Nat) (body : Body) :
    RefusedUntouched (patch validate directory now items caller key body) items ↔
      ¬StatusWithStranger validate directory now items caller key body := by
  rw [patch, StatusWithStranger]
  cases allowed : caller.writer with
  | error refusal => exact iff_of_true (fun _ _ => rfl) (by rintro ⟨_, _, _, _, _, ⟨⟩, _⟩)
  | ok member =>
  dsimp only
  cases found : getActionItem items member.tenant key with
  | none =>
      refine iff_of_true (fun _ _ => rfl) ?_
      rintro ⟨_, _, _, _, _, ⟨⟩, present, _⟩
      rw [found] at present
      cases present
  | some item =>
  dsimp only
  cases valid : validate body >>= ActionItemUpdateSerializer.isValid with
  | error errors =>
      exact iff_of_true (fun _ _ => rfl) (by rintro ⟨_, _, _, _, _, _, _, ⟨⟩, _⟩)
  | ok data =>
      refine (refusedUntouched_replyTo_iff (find?_of_getActionItem found)).trans (not_congr ?_)
      constructor
      · rintro ⟨value, stranger, asked⟩
        exact ⟨member, item, data, value, stranger, rfl, found, rfl, asked⟩
      · rintro ⟨_, other, _, value, stranger, ⟨⟩, present, ⟨⟩, asked⟩
        cases found.symm.trans present
        exact ⟨value, stranger, asked⟩

/-! A contributor marks an item done and gives it to somebody outside of the company. -/

def contributor : Membership := ⟨0, 0, 1, .contributor⟩

def openItem : ActionItem := ⟨0, 0, 0, 0, .todo, none, "", none, none, 100, 100⟩

def onlyItem : Table ActionItem :=
  ⟨[openItem], 1, List.pairwise_singleton _ _, by simp [ident, openItem]⟩

def company : Directory :=
  ⟨.empty, ⟨[contributor], 1, List.pairwise_singleton _ _, by simp [ident, contributor]⟩⟩

theorem status_outlives_refusal :
    ¬RefusedUntouched
      (patch Except.ok company 200 onlyItem ⟨true, some contributor⟩ 0
        ⟨.given .done, .absent, .given (some 7), .absent⟩) onlyItem := by
  intro untouched
  have refused := untouched
    (.assignee "Cette personne n'est pas membre de cette entreprise.") (by decide)
  exact absurd refused (by decide)

end RssiService.Actions
