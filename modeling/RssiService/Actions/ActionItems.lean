import RssiService.Tenants.Members

/-!
# Items of an action plan

An item is a gap of an assessment that a company works on.  Its status, assignee, note and
due date change one at a time, and each change dates the item.
-/

namespace RssiService.Actions

open Foundation
open Tenants (Directory)

inductive Status where
  | todo
  | inProgress
  | done
  deriving DecidableEq, Repr

structure ActionItem where
  id : Nat
  tenant : Nat
  assessment : Nat
  measure : Nat
  status : Status
  assignee : Option Nat
  note : String
  dueDate : Option Nat
  completedAt : Option Nat
  createdAt : Nat
  updatedAt : Nat
  deriving DecidableEq, Repr

instance : Identified ActionItem := ⟨ActionItem.id⟩

inductive ActionsError where
  | invalidAssignee (message : String)
  deriving DecidableEq, Repr

def setDueDate (item : ActionItem) (dueDate : Option Nat) (now : Nat) : ActionItem :=
  { item with dueDate, updatedAt := now }

/-- The completion is dated when the item is done, and forgotten when it opens again. -/
def updateStatus (item : ActionItem) (status : Status) (now : Nat) : ActionItem :=
  { item with
    status
    completedAt := if status = .done then some now else none
    updatedAt := now }

/-- Assign the item to a member of its company, or to nobody. -/
def assignActionItem (directory : Directory) (item : ActionItem) (user : Option Nat) (now : Nat) :
    Except ActionsError ActionItem :=
  if user.any fun user => !directory.isMember item.tenant user then
    .error (.invalidAssignee "Cette personne n'est pas membre de cette entreprise.")
  else .ok { item with assignee := user, updatedAt := now }

def setNote (item : ActionItem) (note : String) (now : Nat) : ActionItem :=
  { item with note, updatedAt := now }

/-! ## Changes -/

inductive ItemChange where
  | status (value : Status)
  | assignee (user : Option Nat)
  | note (text : String)
  | dueDate (day : Option Nat)
  deriving DecidableEq, Repr

/-- The item after a change; a refusal changes nothing. -/
def ItemChange.apply (directory : Directory) (now : Nat) (item : ActionItem) :
    ItemChange → ActionItem
  | .status value => updateStatus item value now
  | .assignee user =>
      match assignActionItem directory item user now with
      | .ok assigned => assigned
      | .error _ => item
  | .note text => setNote item text now
  | .dueDate day => setDueDate item day now

section Changes

variable {directory : Directory} {now : Nat} {item : ActionItem}

theorem assignActionItem_ok {assigned : ActionItem} {user : Option Nat}
    (accepted : assignActionItem directory item user now = .ok assigned) :
    assigned = { item with assignee := user, updatedAt := now } := by
  rw [assignActionItem] at accepted
  split at accepted
  · cases accepted
  · cases accepted
    rfl

/-- A change keeps what an item is about and when it was created. -/
structure SameSubject (item after : ActionItem) : Prop where
  id : after.id = item.id
  tenant : after.tenant = item.tenant
  assessment : after.assessment = item.assessment
  measure : after.measure = item.measure
  createdAt : after.createdAt = item.createdAt

theorem SameSubject.refl (item : ActionItem) : SameSubject item item := ⟨rfl, rfl, rfl, rfl, rfl⟩

theorem sameSubject_apply (change : ItemChange) :
    SameSubject item (change.apply directory now item) := by
  cases change with
  | status value => exact ⟨rfl, rfl, rfl, rfl, rfl⟩
  | assignee user =>
      rw [ItemChange.apply]
      split
      · rename_i accepted
        rw [assignActionItem_ok accepted]
        exact ⟨rfl, rfl, rfl, rfl, rfl⟩
      · exact .refl item
  | note text => exact ⟨rfl, rfl, rfl, rfl, rfl⟩
  | dueDate day => exact ⟨rfl, rfl, rfl, rfl, rfl⟩

end Changes

/-- Change one item of the plans. -/
def changeItem (directory : Directory) (items : Table ActionItem) (key : Nat) (change : ItemChange)
    (now : Nat) : Table ActionItem :=
  items.modify key (change.apply directory now) fun _ => (sameSubject_apply change).id

theorem mem_changeItem {directory : Directory} {items : Table ActionItem} {key now : Nat}
    {change : ItemChange} {item : ActionItem} :
    item ∈ changeItem directory items key change now ↔
      ∃ source ∈ items, (if source.id = key then change.apply directory now source else source) =
        item :=
  Table.mem_modify

theorem sameSubject_changed (directory : Directory) (now : Nat) (item : ActionItem) (key : Nat)
    (change : ItemChange) :
    SameSubject item (if item.id = key then change.apply directory now item else item) := by
  split
  · exact sameSubject_apply change
  · exact .refl item

end RssiService.Actions
