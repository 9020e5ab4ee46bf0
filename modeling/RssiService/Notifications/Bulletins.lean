import Mathlib.Data.List.Dedup
import RssiService.Foundation.Interleaving
import RssiService.Foundation.Interruption
import RssiService.Notifications.Weather
import RssiService.Tenants.Members

/-!
# The sending of the bulletins

A task sends the bulletin of the day to the administrators of a tenant, in one mail, and
then logs one row for each of them.  The log, which the next task looks at, is behind the
mail: a task that stops between the two, or one that has looked before, sends it again.
-/

namespace RssiService.Notifications

open Foundation Foundation.Run Foundation.Interleaving Foundation.Interruption Python
open Monitoring (Asset Status)
open Tenants (Directory)

/-! ## Rows -/

inductive EmailKind where
  | weather
  | realtimeAlert
  | preIncident
  deriving DecidableEq, Repr

structure EmailLog where
  id : Nat
  tenant : Nat
  kind : EmailKind
  recipient : String
  subject : String
  sentAt : Nat
  deriving DecidableEq, Repr

instance : Identified EmailLog := ⟨EmailLog.id⟩

structure NotificationPreferences where
  id : Nat
  tenant : Nat
  weatherEnabled : Bool
  deriving DecidableEq, Repr

instance : Identified NotificationPreferences := ⟨NotificationPreferences.id⟩

/-- A bulletin in the mailbox of an administrator. -/
structure Bulletin where
  tenant : Nat
  recipient : String
  day : Nat
  deriving DecidableEq, Repr

/-- What the bulletins read of the other applications. -/
structure Surroundings where
  tenants : List (Nat × String)
  directory : Directory
  assets : Table Asset
  situation : Situation

/-- The tables of the notifications, the local time in seconds, and the bulletins that were
received. -/
structure Post where
  surroundings : Surroundings
  preferences : Table NotificationPreferences
  logs : Table EmailLog
  now : Nat
  mailbox : List Bulletin

namespace Post

/-! ## Reads -/

/-- The ordinal of the day of a local time. -/
def localDate (now : Nat) : Nat := now / 86400

def today (post : Post) : Nat := localDate post.now

def getTenant (post : Post) (tenant : Nat) : Option String :=
  (post.surroundings.tenants.find? fun row => row.1 = tenant).map Prod.snd

def getPreferences (post : Post) (tenant : Nat) : Option NotificationPreferences :=
  post.preferences.rows.find? fun row => row.tenant = tenant

def alreadySentToday (post : Post) (tenant : Nat) (kind : EmailKind) : Bool :=
  post.logs.rows.any fun row =>
    row.tenant = tenant && row.kind = kind && localDate row.sentAt = post.today

/-- The administrators of the tenant, contributors and readers apart. -/
def listRecipientEmails (post : Post) (tenant : Nat) : List String :=
  post.surroundings.directory.members.rows.filterMap fun row =>
    if row.tenant = tenant ∧ row.role = .admin then
      (post.surroundings.directory.users.find? row.user).map Tenants.User.email
    else none

def moodEmoji : Status → String
  | .ok => "☀️"
  | .warning => "⛅"
  | .critical => "⛈️"

def moodLabel : Status → String
  | .ok => "Beau temps"
  | .warning => "Quelques nuages"
  | .critical => "Orage"

/-- The subject of a bulletin, with the weather of the day. -/
def subject (post : Post) (tenant : Nat) (name : String) : String :=
  let mood := (buildWeatherContext post.surroundings.assets post.surroundings.situation tenant).mood
  s!"{moodEmoji mood} Bulletin du {dayMonth post.today} — {moodLabel mood} — {name}"

/-! ## Writes -/

inductive Change where
  | createPreferences (tenant : Nat)
  | updatePreferences (tenant : Nat) (weatherEnabled : Bool)
  | send (tenant : Nat) (recipients : List String)
  | log (tenant : Nat) (kind : EmailKind) (recipient subject : String)
  | setTime (now : Nat)
  | surround (surroundings : Surroundings)

def newPreferences (tenant key : Nat) : NotificationPreferences := ⟨key, tenant, true⟩

theorem ident_newPreferences (tenant key : Nat) : ident (newPreferences tenant key) = key := rfl

def withWeather (enabled : Bool) (row : NotificationPreferences) : NotificationPreferences :=
  { row with weatherEnabled := enabled }

theorem ident_withWeather (enabled : Bool) (row : NotificationPreferences) :
    ident (withWeather enabled row) = ident row := rfl

def newLog (tenant : Nat) (kind : EmailKind) (recipient subject : String) (now key : Nat) :
    EmailLog := ⟨key, tenant, kind, recipient, subject, now⟩

theorem ident_newLog (tenant : Nat) (kind : EmailKind) (recipient subject : String)
    (now key : Nat) : ident (newLog tenant kind recipient subject now key) = key := rfl

/-- A message reaches an address once, however often it is listed. -/
def bulletins (post : Post) (tenant : Nat) (recipients : List String) : List Bulletin :=
  recipients.dedup.map fun recipient => ⟨tenant, recipient, post.today⟩

def apply (post : Post) : Change → Post
  | .createPreferences tenant =>
      if (post.getPreferences tenant).isSome then post
      else
        { post with
          preferences :=
            post.preferences.create (newPreferences tenant) (ident_newPreferences tenant) }
  | .updatePreferences tenant enabled =>
      { post with
        preferences := post.preferences.updateWhere (fun row => row.tenant = tenant)
          (withWeather enabled) (ident_withWeather enabled) }
  | .send tenant recipients =>
      { post with mailbox := post.mailbox ++ post.bulletins tenant recipients }
  | .log tenant kind recipient subject =>
      { post with
        logs := post.logs.create (newLog tenant kind recipient subject post.now)
          (ident_newLog tenant kind recipient subject post.now) }
  | .setTime now => { post with now }
  | .surround surroundings => { post with surroundings }

/-! ## Tasks -/

/-- The preferences of a tenant, which are created where they are missing. -/
def getOrCreatePreferences (tenant : Nat)
    (next : NotificationPreferences → Program Post Change) : Program Post Change :=
  .read fun post =>
    match post.getPreferences tenant with
    | some preferences => next preferences
    | none =>
        .write (.createPreferences tenant) <| .read fun post =>
          match post.getPreferences tenant with
          | some preferences => next preferences
          | none => .done

/-- One mail, then a row of the log for each recipient. -/
def sendEmail (tenant : Nat) (kind : EmailKind) (recipients : List String) (subject : String) :
    List Change :=
  .send tenant recipients :: recipients.map fun recipient => .log tenant kind recipient subject

/-- Send the bulletin of a tenant, unless it does not want it or the log has one of the
day.  The task may stop after some of its writes. -/
def sendWeatherEmail (tenant : Nat) (name : String) (cut : Option Nat) : Program Post Change :=
  getOrCreatePreferences tenant fun preferences =>
    if preferences.weatherEnabled then
      .read fun post =>
        if post.alreadySentToday tenant .weather then .done
        else
          .read fun post =>
            match post.listRecipientEmails tenant with
            | [] => .done
            | first :: others =>
                .read fun post =>
                  .ofWrites (made
                    (sendEmail tenant .weather (first :: others) (post.subject tenant name)) cut)
    else .done

/-- A task for a tenant, delivered once or again, a change of the preferences, and what
happens around. -/
inductive Task where
  | sendWeatherEmailForTenant (tenant : Nat) (cut : Option Nat)
  | updatePreferences (tenant : Nat) (weatherEnabled : Bool)
  | setTime (now : Nat)
  | surround (surroundings : Surroundings)

def Task.program : Task → Program Post Change
  | .sendWeatherEmailForTenant tenant cut =>
      .read fun post =>
        match post.getTenant tenant with
        | none => .done
        | some name => sendWeatherEmail tenant name cut
  | .updatePreferences tenant enabled =>
      getOrCreatePreferences tenant fun _ => .write (.updatePreferences tenant enabled) .done
  | .setTime now => .write (.setTime now) .done
  | .surround surroundings => .write (.surround surroundings) .done

/-! ## One bulletin a day -/

/-- Each administrator has received at most one bulletin of a tenant on a day. -/
def Once (post : Post) : Prop := post.mailbox.Nodup

/-- A mail goes to administrators who have not received the bulletin of the day. -/
def Finds (post : Post) : Change → Prop
  | .send tenant recipients =>
      ∀ recipient ∈ recipients, (⟨tenant, recipient, post.today⟩ : Bulletin) ∉ post.mailbox
  | _ => True

section Writes

variable {post : Post} {tenant : Nat} {recipients : List String}

theorem nodup_bulletins (post : Post) (tenant : Nat) (recipients : List String) :
    (post.bulletins tenant recipients).Nodup :=
  recipients.nodup_dedup.map fun _ _ same => (Bulletin.mk.inj same).2.1

theorem mem_bulletins {bulletin : Bulletin} :
    bulletin ∈ post.bulletins tenant recipients ↔
      ∃ recipient ∈ recipients, (⟨tenant, recipient, post.today⟩ : Bulletin) = bulletin := by
  simp only [bulletins, List.mem_map, List.mem_dedup]

theorem once_apply_iff (once : post.Once) (change : Change) :
    (post.apply change).Once ↔ post.Finds change := by
  cases change with
  | createPreferences tenant =>
      rw [apply]
      split
      · exact iff_of_true once trivial
      · exact iff_of_true once trivial
  | updatePreferences tenant enabled => exact iff_of_true once trivial
  | log tenant kind recipient subject => exact iff_of_true once trivial
  | setTime now => exact iff_of_true once trivial
  | surround surroundings => exact iff_of_true once trivial
  | send tenant recipients =>
      rw [apply, Once, List.nodup_append']
      constructor
      · rintro ⟨_, _, apart⟩ recipient listed received
        exact apart received (mem_bulletins.mpr ⟨recipient, listed, rfl⟩)
      · intro finds
        refine ⟨once, nodup_bulletins post tenant recipients, fun bulletin received sent => ?_⟩
        obtain ⟨recipient, listed, rfl⟩ := mem_bulletins.mp sent
        exact finds recipient listed received

end Writes

/-- Through a schedule of the tasks, wherever they stop and however often they are delivered,
nobody receives two bulletins of a tenant on a day exactly where each mail goes to
administrators who have not received it. -/
theorem bulletins_once_iff (start : Post) (moments : List (Moment Task)) :
    Always (step apply Task.program) (fun session => session.state.Once) (.start start) moments ↔
      start.Once ∧
        EachStep (step apply Task.program) (WriteMeets Finds) (.start start) moments :=
  always_iff_writesMeet (P := Once) (fun _ change once => once_apply_iff once change)
    (.start start) moments

/-! ## Tasks that nothing interrupts -/

/-- Each bulletin of a day is in the log of that day. -/
def Logged (post : Post) : Prop :=
  ∀ bulletin ∈ post.mailbox, ∃ row ∈ post.logs, row.tenant = bulletin.tenant ∧
    row.kind = .weather ∧ localDate row.sentAt = bulletin.day

/-- What holds between two tasks. -/
structure Good (post : Post) : Prop where
  once : post.Once
  logged : post.Logged

/-- The task does not stop between the mail and the first row of the log. -/
def Task.Records : Task → Prop
  | .sendWeatherEmailForTenant _ cut => cut ≠ some 1
  | _ => True

section Served

variable {post : Post} {tenant : Nat}

theorem mem_logged {kind : EmailKind} {recipient subject : String} {row : EmailLog} :
    row ∈ post.logs.create (newLog tenant kind recipient subject post.now)
        (ident_newLog tenant kind recipient subject post.now) ↔
      row ∈ post.logs ∨ row = newLog tenant kind recipient subject post.now post.logs.next :=
  Table.mem_create

theorem logged_log (logged : post.Logged) (kind : EmailKind) (recipient subject : String) :
    (post.apply (.log tenant kind recipient subject)).Logged := by
  intro bulletin received
  obtain ⟨row, inside, told⟩ := logged bulletin received
  exact ⟨row, mem_logged.mpr (Or.inl inside), told⟩

/-- The mail and the first row of the log, where the log had none of the day. -/
theorem good_send (good : post.Good) (unsent : post.alreadySentToday tenant .weather = false)
    (first : String) (others : List String) (subject : String) :
    ((post.apply (.send tenant (first :: others))).apply
      (.log tenant .weather first subject)).Good := by
  refine ⟨(once_apply_iff good.once (.send tenant (first :: others))).mpr ?_, ?_⟩
  · intro recipient _ received
    obtain ⟨row, inside, ofTenant, kind, day⟩ := good.logged _ received
    have listed := List.any_eq_false.mp unsent row inside
    simp [ofTenant, kind, day] at listed
  · intro bulletin received
    rcases List.mem_append.mp received with old | sent
    · obtain ⟨row, inside, told⟩ := good.logged bulletin old
      exact ⟨row, mem_logged.mpr (Or.inl inside), told⟩
    · obtain ⟨recipient, _, rfl⟩ := mem_bulletins.mp sent
      exact ⟨_, mem_logged.mpr (Or.inr rfl), rfl, rfl, rfl⟩

theorem good_of_same {after : Post} (good : post.Good) (mailbox : after.mailbox = post.mailbox)
    (logs : after.logs = post.logs) : after.Good := by
  refine ⟨?_, fun bulletin received => ?_⟩
  · rw [Once, mailbox]
    exact good.once
  · rw [mailbox] at received
    rw [logs]
    exact good.logged bulletin received

/-- The rows of the log that come after the first one. -/
theorem good_logs {writes : List Change}
    (logs : ∀ change ∈ writes, ∃ kind recipient subject, change = .log tenant kind recipient subject)
    (good : post.Good) : (writes.foldl apply post).Good := by
  induction writes generalizing post with
  | nil => exact good
  | cons change rest ih =>
      rw [List.forall_mem_cons] at logs
      obtain ⟨⟨kind, recipient, subject, rfl⟩, others⟩ := logs
      exact ih others ⟨(once_apply_iff good.once _).mpr trivial,
        logged_log good.logged kind recipient subject⟩

/-- The writes of a task that records what it has sent. -/
theorem good_sendEmail (good : post.Good)
    (unsent : post.alreadySentToday tenant .weather = false) (first : String)
    (others : List String) (subject : String) {cut : Option Nat} (records : cut ≠ some 1) :
    ((made (sendEmail tenant .weather (first :: others) subject) cut).foldl apply post).Good := by
  have sent := good_send good unsent first others subject
  let rows := others.map fun recipient => Change.log tenant .weather recipient subject
  have told : ∀ change ∈ rows, ∃ kind recipient subject,
      change = .log tenant kind recipient subject := by
    intro change listed
    obtain ⟨recipient, _, rfl⟩ := List.mem_map.mp listed
    exact ⟨_, _, _, rfl⟩
  match cut with
  | none =>
      have complete := good_logs told sent
      exact complete
  | some 0 => exact good
  | some 1 => exact absurd rfl records
  | some (count + 2) =>
      have begun : ∀ change ∈ rows.take count, ∃ kind recipient subject,
          change = .log tenant kind recipient subject :=
        fun change listed => told change (List.mem_of_mem_take listed)
      have stopped := good_logs begun sent
      exact stopped

theorem good_getOrCreatePreferences (good : post.Good)
    {next : NotificationPreferences → Program Post Change}
    (goes : ∀ preferences (post : Post), post.Good →
      ((next preferences).alone apply post).Good) :
    ((getOrCreatePreferences tenant next).alone apply post).Good := by
  rw [getOrCreatePreferences, Program.alone]
  split
  · exact goes _ post good
  · have created : (post.apply (.createPreferences tenant)).Good := by
      rw [apply]
      split
      · exact good
      · exact good_of_same good rfl rfl
    rw [Program.alone, Program.alone]
    split
    · exact goes _ _ created
    · exact created

theorem good_sendWeatherEmail (good : post.Good) (name : String) {cut : Option Nat}
    (records : cut ≠ some 1) : ((sendWeatherEmail tenant name cut).alone apply post).Good := by
  refine good_getOrCreatePreferences good fun preferences post good => ?_
  split
  · rw [Program.alone]
    split
    · exact good
    · next unsent =>
        rw [Program.alone]
        split
        · exact good
        · next first others _ =>
            rw [Program.alone, Program.alone_ofWrites]
            exact good_sendEmail good (Bool.eq_false_iff.mpr unsent) first others _ records
  · exact good

theorem good_serve (good : post.Good) {task : Task} (records : task.Records) :
    (serve apply Task.program post task).Good := by
  rw [serve]
  cases task with
  | sendWeatherEmailForTenant tenant cut =>
      rw [Task.program, Program.alone]
      split
      · exact good
      · exact good_sendWeatherEmail good _ records
  | updatePreferences tenant enabled =>
      exact good_getOrCreatePreferences good fun _ post good => good_of_same good rfl rfl
  | setTime now => exact good_of_same good rfl rfl
  | surround surroundings => exact good_of_same good rfl rfl

/-- Tasks that are served one after the other send each bulletin once, where none of them
stops between its mail and the first row of the log. -/
theorem served_once {start : Post} (good : start.Good) {tasks : List Task}
    (records : ∀ task ∈ tasks, task.Records) :
    Always (serve apply Task.program) Once start tasks := by
  refine Always.imp (fun _ good => good.once) (always_of_eachStep (P := Good) good ?_)
  exact eachStep_of_forall_mem fun task listed _ good => good_serve good (records task listed)

end Served

/-! A company with one administrator, on the morning of a day. -/

def cabinet : Post where
  surroundings :=
    { tenants := [(1, "Cabinet Martin")]
      directory :=
        { users := ⟨[⟨0, "martin@cabinet.fr"⟩], 1, by decide, by decide⟩
          members := ⟨[⟨0, 1, 0, .admin⟩], 1, by decide, by decide⟩ }
      assets := Table.empty
      situation := ⟨Table.empty, ⟨Table.empty, Table.empty, Table.empty⟩⟩ }
  preferences := ⟨[⟨0, 1, true⟩], 1, by decide, by decide⟩
  logs := Table.empty
  now := 739000 * 86400 + 28800
  mailbox := []

/-- The task up to its mail, which is its first write. -/
def upToMail (client : Nat) : List (Moment Task) := List.replicate 6 (.advance client)

/-- A worker stops after the mail, and its task is delivered again. -/
def stoppedAfterMail : List (Moment Task) :=
  .arrive 0 (.sendWeatherEmailForTenant 1 (some 1)) :: upToMail 0 ++
    .arrive 1 (.sendWeatherEmailForTenant 1 none) :: upToMail 1

/-- Two workers look at the log before either of them has sent. -/
def twoWorkers : List (Moment Task) :=
  [.arrive 0 (.sendWeatherEmailForTenant 1 none), .advance 0, .advance 0, .advance 0,
    .arrive 1 (.sendWeatherEmailForTenant 1 none)] ++ upToMail 1 ++
    [.advance 0, .advance 0, .advance 0]

/-- Either way the administrator receives the bulletin twice. -/
theorem bulletin_received_twice :
    ¬Always (step apply Task.program) (fun session => session.state.Once) (.start cabinet)
        stoppedAfterMail ∧
      ¬Always (step apply Task.program) (fun session => session.state.Once) (.start cabinet)
        twoWorkers := by
  constructor
  · intro always
    have twice : ¬(after (step apply Task.program) (.start cabinet)
        stoppedAfterMail).state.mailbox.Nodup := by
      decide +kernel
    exact twice always.last
  · intro always
    have twice : ¬(after (step apply Task.program) (.start cabinet)
        twoWorkers).state.mailbox.Nodup := by
      decide +kernel
    exact twice always.last

end Post

end RssiService.Notifications
