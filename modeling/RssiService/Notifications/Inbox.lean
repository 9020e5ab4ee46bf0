import RssiService.Foundation.Table
import RssiService.Python.Text

/-!
# The notifications inside the application

A notification belongs to one person.  Two notifications of a person with the same
key are one event, and the second is not created.
-/

namespace RssiService.Notifications

open Foundation Python

inductive Kind where
  | accessRequestNew
  | watchedAccountDeclared
  | accessRequestUpdated
  | watchedFindingsNew
  | committeeReportReady
  | watchUpdatePublished
  | trainingCampaignDone
  | trainingDuePassed
  | trainingLowParticipation
  | trainingMeasureSuggested
  deriving DecidableEq, Repr

/-- The parts of a key, which colons join in the column; none of them holds one. -/
structure DedupeKey where
  event : String
  parts : List (Option Nat)
  deriving DecidableEq, Repr

structure Notification where
  id : Nat
  recipient : Nat
  tenant : Option Nat
  kind : Kind
  title : String
  body : String
  link : String
  dedupeKey : Option DedupeKey
  createdAt : Nat
  readAt : Option Nat
  deriving DecidableEq, Repr

instance : Identified Notification := ⟨Notification.id⟩

/-- What a notification says, whoever receives it. -/
structure Notice where
  kind : Kind
  title : String
  body : String
  link : String
  dedupeKey : Option DedupeKey
  deriving DecidableEq, Repr

def Notice.row (notice : Notice) (tenant : Option Nat) (now recipient key : Nat) :
    Notification where
  id := key
  recipient := recipient
  tenant := tenant
  kind := notice.kind
  title := takeChars notice.title 200
  body := notice.body
  link := takeChars notice.link 200
  dedupeKey := notice.dedupeKey
  createdAt := now
  readAt := none

theorem Notice.ident_row (notice : Notice) (tenant : Option Nat) (now recipient key : Nat) :
    ident (notice.row tenant now recipient key) = key := rfl

/-- The person has a notification with this key. -/
def isKnown (inbox : Table Notification) (dedupeKey : Option DedupeKey) (recipient : Nat) : Bool :=
  dedupeKey.isSome &&
    inbox.rows.any fun row => row.recipient = recipient && row.dedupeKey = dedupeKey

/-- One row of the bulk creation; the constraint drops a known key. -/
def createFor (notice : Notice) (tenant : Option Nat) (now : Nat) (inbox : Table Notification)
    (recipient : Nat) : Table Notification :=
  if isKnown inbox notice.dedupeKey recipient then inbox
  else inbox.create (notice.row tenant now recipient) (notice.ident_row tenant now recipient)

/-- How many of the persons have a notification with this key. -/
def countKnown (inbox : Table Notification) (dedupeKey : Option DedupeKey)
    (recipients : List Nat) : Nat :=
  inbox.rows.countP fun row => row.recipient ∈ recipients && row.dedupeKey = dedupeKey

/-- One notification for each recipient, and how many were created. -/
def notify (inbox : Table Notification) (recipients : List Nat) (tenant : Option Nat)
    (notice : Notice) (now : Nat) : Table Notification × Nat :=
  let destinataires := recipients.eraseDups
  let after := destinataires.foldl (createFor notice tenant now) inbox
  if notice.dedupeKey = none then (after, destinataires.length)
  else
    (after, countKnown after notice.dedupeKey destinataires -
      countKnown inbox notice.dedupeKey destinataires)

/-- The notice is that of the notification, for one of these persons. -/
structure Delivered (recipients : List Nat) (tenant : Option Nat) (notice : Notice)
    (row : Notification) : Prop where
  recipient : row.recipient ∈ recipients
  tenant : row.tenant = tenant
  kind : row.kind = notice.kind
  dedupeKey : row.dedupeKey = notice.dedupeKey

section Notify

variable {notice : Notice} {tenant : Option Nat} {now : Nat} {inbox : Table Notification}
  {recipients : List Nat} {row : Notification}

theorem mem_foldl_createFor :
    row ∈ recipients.foldl (createFor notice tenant now) inbox →
      row ∈ inbox ∨ Delivered recipients tenant notice row := by
  induction recipients generalizing inbox with
  | nil => exact .inl
  | cons recipient rest ih =>
      intro listed
      rcases ih listed with earlier | later
      · rw [createFor] at earlier
        split at earlier
        · exact .inl earlier
        · rcases Table.mem_create.mp earlier with old | rfl
          · exact .inl old
          · exact .inr ⟨List.mem_cons_self, rfl, rfl, rfl⟩
      · exact .inr ⟨List.mem_cons_of_mem _ later.recipient, later.tenant, later.kind,
          later.dedupeKey⟩

/-- A notification is one that was there, or one of the notice. -/
theorem mem_notify (listed : row ∈ (notify inbox recipients tenant notice now).1) :
    row ∈ inbox ∨ Delivered recipients tenant notice row := by
  have created : row ∈ recipients.eraseDups.foldl (createFor notice tenant now) inbox := by
    rw [notify] at listed
    split at listed <;> exact listed
  refine (mem_foldl_createFor created).imp_right fun delivered => ?_
  exact ⟨List.mem_eraseDups.mp delivered.recipient, delivered.tenant, delivered.kind,
    delivered.dedupeKey⟩

theorem mem_createFor_of_mem (recipient : Nat) (member : row ∈ inbox) :
    row ∈ createFor notice tenant now inbox recipient := by
  rw [createFor]
  split
  · exact member
  · exact Table.mem_create.mpr (.inl member)

theorem mem_foldl_createFor_of_mem (member : row ∈ inbox) :
    row ∈ recipients.foldl (createFor notice tenant now) inbox := by
  induction recipients generalizing inbox with
  | nil => exact member
  | cons recipient rest ih => exact ih (mem_createFor_of_mem recipient member)

theorem mem_notify_of_mem (member : row ∈ inbox) :
    row ∈ (notify inbox recipients tenant notice now).1 := by
  have kept : row ∈ recipients.eraseDups.foldl (createFor notice tenant now) inbox :=
    mem_foldl_createFor_of_mem member
  rw [notify]
  split <;> exact kept

theorem exists_mem_createFor (notice : Notice) (tenant : Option Nat) (now : Nat)
    (inbox : Table Notification) (recipient : Nat) :
    ∃ row ∈ createFor notice tenant now inbox recipient,
      row.recipient = recipient ∧ row.dedupeKey = notice.dedupeKey := by
  rw [createFor]
  split
  · rename_i known
    rw [isKnown, Bool.and_eq_true] at known
    obtain ⟨row, inside, same⟩ := List.any_eq_true.mp known.2
    rw [Bool.and_eq_true] at same
    exact ⟨row, inside, of_decide_eq_true same.1, of_decide_eq_true same.2⟩
  · exact ⟨_, Table.mem_create.mpr (.inr rfl), rfl, rfl⟩

/-- Afterwards each recipient has a notification with the key of the notice. -/
theorem exists_mem_notify (notice : Notice) (tenant : Option Nat) (now : Nat)
    (inbox : Table Notification) {recipient : Nat} (member : recipient ∈ recipients) :
    ∃ row ∈ (notify inbox recipients tenant notice now).1,
      row.recipient = recipient ∧ row.dedupeKey = notice.dedupeKey := by
  have listed : recipient ∈ recipients.eraseDups := List.mem_eraseDups.mpr member
  obtain ⟨earlier, later, split⟩ := List.append_of_mem listed
  have created : ∃ row ∈ recipients.eraseDups.foldl (createFor notice tenant now) inbox,
      row.recipient = recipient ∧ row.dedupeKey = notice.dedupeKey := by
    rw [split, List.foldl_append, List.foldl_cons]
    obtain ⟨row, inside, whose⟩ := exists_mem_createFor notice tenant now
      (earlier.foldl (createFor notice tenant now) inbox) recipient
    exact ⟨row, mem_foldl_createFor_of_mem inside, whose⟩
  rw [notify]
  split <;> exact created

end Notify

end RssiService.Notifications
