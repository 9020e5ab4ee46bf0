import RssiService.Foundation.Counting
import RssiService.Training.SessionTokens

/-!
# Reminders

One run of the task sends the reminders of the day in order, up to the first failure.
Each employee is to receive one reminder a day and each kind once, and what announces
the due date is to come before it.
-/

namespace RssiService.Training

open Foundation Foundation.Run Python

namespace TrainingSite

/-! ## What one run delivers -/

/-- The mail carries this reminder. -/
structure Delivers (now : Nat) (entry : Inscription × ReminderLog.Kind) (mail : Mail) : Prop where
  inscription : mail.inscription = entry.1.id
  learner : mail.learner = entry.1.learner
  message : mail.message = .relance entry.2
  sentAt : mail.sentAt = now

/-- The reminders that are delivered, when every link is renewed: those up to the first
failure, and the one whose log fails. -/
def delivered (failures : Nat → Option FailurePoint) :
    Nat → List (Inscription × ReminderLog.Kind) → List (Inscription × ReminderLog.Kind)
  | _, [] => []
  | rank, entry :: rest =>
      match failures rank with
      | none => entry :: delivered failures (rank + 1) rest
      | some .log => [entry]
      | some .renewal | some .mail => []

section Deliveries

variable {runtime : TrainingRuntime} {site after renewed : TrainingSite} {now rank : Nat}
  {jeton : String} {jetons : Nat → String} {failures : Nat → Option FailurePoint}
  {inscription : Inscription} {kind : ReminderLog.Kind}
  {reminders : List (Inscription × ReminderLog.Kind)}

theorem delivers_envoyer (jeton : String) : Delivers now (inscription, kind)
    ⟨inscription.id, inscription.learner, .relance kind, jeton, now⟩ := ⟨rfl, rfl, rfl, rfl⟩

theorem mails_renouvelerLeLien
    (links : site.renouvelerLeLien runtime inscription jeton now = .ok renewed) :
    renewed.mails = site.mails ∧ renewed.reminders = site.reminders := by
  obtain ⟨_, _, _, rfl⟩ := renouvelerLeLien_ok links
  exact ⟨rfl, rfl⟩

/-- A run delivers a first part of what there is to send. -/
theorem mails_envoyerToutes (runtime : TrainingRuntime) (now : Nat) (jetons : Nat → String)
    (failures : Nat → Option FailurePoint) (reminders : List (Inscription × ReminderLog.Kind))
    (rank : Nat) (site : TrainingSite) :
    ∃ sent couriers, sent <+: reminders ∧ List.Forall₂ (Delivers now) sent couriers ∧
      (envoyerToutes runtime now jetons failures rank reminders site).mails =
        site.mails ++ couriers := by
  induction reminders generalizing rank site with
  | nil => exact ⟨[], [], List.prefix_refl _, .nil, (List.append_nil _).symm⟩
  | cons entry rest ih =>
      obtain ⟨inscription, kind⟩ := entry
      have sends := sends_envoyerUneRelance runtime site now (jetons rank) (failures rank)
        inscription kind
      rw [envoyerToutes]
      generalize site.envoyerUneRelance runtime now (jetons rank) (failures rank) inscription kind =
        outcome at sends ⊢
      cases sends with
      | nothing => exact ⟨[], [], List.nil_prefix, .nil, (List.append_nil _).symm⟩
      | link links fails =>
          refine ⟨[], [], List.nil_prefix, .nil, ?_⟩
          rw [List.append_nil]
          exact (mails_renouvelerLeLien links).1
      | mail links fails =>
          refine ⟨[(inscription, kind)], _, ⟨rest, rfl⟩,
            .cons (delivers_envoyer (jetons rank)) .nil, ?_⟩
          rw [← (mails_renouvelerLeLien links).1]
          rfl
      | @log renewed links succeeds new =>
          obtain ⟨sent, couriers, first, carried, mails⟩ := ih (rank + 1)
            ((renewed.envoyer inscription.id inscription.learner (.relance kind) (jetons rank)
              now).journaliser inscription kind now)
          refine ⟨(inscription, kind) :: sent, _ :: couriers,
            (List.prefix_cons_inj _).mpr first,
            .cons (delivers_envoyer (jetons rank)) carried, ?_⟩
          refine mails.trans ?_
          rw [← (mails_renouvelerLeLien links).1]
          exact List.append_assoc renewed.mails [_] couriers

/-- The loop may send the reminders that are left: they are for distinct enrolments, with
their links and without their logs, and the tokens are new. -/
structure Ready (runtime : TrainingRuntime) (jetons : Nat → String) (rank : Nat)
    (reminders : List (Inscription × ReminderLog.Kind)) (site : TrainingSite) : Prop where
  sound : LinksSound runtime site
  tokens : FreshTokens runtime site jetons rank reminders.length
  own : ∀ entry ∈ reminders, ∀ row ∈ site.inscriptions, row.id = entry.1.id →
    row.tenant = entry.1.tenant
  live : ∀ entry ∈ reminders, entry.1.isRevoked = false
  present : ∀ entry ∈ reminders, ∃ row ∈ site.inscriptions, row.id = entry.1.id
  distinct : reminders.Pairwise fun first second => first.1.id ≠ second.1.id
  unlogged : ∀ entry ∈ reminders, site.dejaEnvoyee entry.1.id entry.2 = false

/-- With a new token, the link of an enrolment that lives is renewed. -/
theorem renouvelerLeLien_of_fresh (now : Nat) (sound : LinksSound runtime site)
    (fresh : site.FreshToken runtime jeton) (live : inscription.isRevoked = false)
    (present : ∃ row ∈ site.inscriptions, row.id = inscription.id) :
    ∃ renewed, site.renouvelerLeLien runtime inscription jeton now = .ok renewed := by
  have free : site.hashTaken (runtime.hacher jeton) (some inscription.id) = false := by
    refine List.any_eq_false.mpr fun row member taken => ?_
    rw [Bool.and_eq_true, decide_eq_true_eq] at taken
    obtain ⟨former, last, hash⟩ := sound.linked row member
    obtain ⟨issue, issued, _, rfl⟩ := mem_issued_of_lastIssued last
    exact fresh.2 issue issued (taken.1.symm.trans hash)
  obtain ⟨row, member, same⟩ := present
  have found : site.inscriptions.find? inscription.id = some row :=
    Table.find?_eq_some_iff.mpr ⟨member, same⟩
  rw [renouvelerLeLien, live, free, found]
  exact ⟨_, rfl⟩

theorem dejaEnvoyee_journaliser {key : Nat} {other : ReminderLog.Kind} :
    (site.journaliser inscription kind now).dejaEnvoyee key other = true ↔
      site.dejaEnvoyee key other = true ∨ inscription.id = key ∧ kind = other := by
  simp [dejaEnvoyee, journaliser, Table.create]

/-- What the head of the loop does to a site that is ready. -/
theorem Ready.head (ready : Ready runtime jetons rank ((inscription, kind) :: reminders) site)
    (now : Nat) :
    ∃ renewed, site.renouvelerLeLien runtime inscription (jetons rank) now = .ok renewed ∧
      ∀ failure, site.envoyerUneRelance runtime now (jetons rank) failure inscription kind =
        match failure with
        | some .renewal => (site, false)
        | some .mail => (renewed, false)
        | some .log =>
            (renewed.envoyer inscription.id inscription.learner (.relance kind) (jetons rank) now,
              false)
        | none =>
            ((renewed.envoyer inscription.id inscription.learner (.relance kind) (jetons rank)
              now).journaliser inscription kind now, true) := by
  obtain ⟨renewed, links⟩ : ∃ renewed,
      site.renouvelerLeLien runtime inscription (jetons rank) now = .ok renewed :=
    renouvelerLeLien_of_fresh now ready.sound (ready.tokens.fresh 0 (Nat.zero_lt_succ _))
      (ready.live _ List.mem_cons_self) (ready.present _ List.mem_cons_self)
  refine ⟨renewed, links, fun failure => ?_⟩
  have new := ready.unlogged _ List.mem_cons_self
  have unlogged : (renewed.envoyer inscription.id inscription.learner (.relance kind)
      (jetons rank) now).dejaEnvoyee inscription.id kind = false := by
    rw [← new, dejaEnvoyee, dejaEnvoyee, ← (mails_renouvelerLeLien links).2]
    rfl
  rw [envoyerUneRelance, links]
  cases failure with
  | some point =>
      cases point with
      | renewal => rfl
      | mail => rfl
      | log => rfl
  | none =>
      dsimp only
      rw [unlogged]
      rfl

/-- After a reminder that is logged the loop may send the rest. -/
theorem Ready.tail (ready : Ready runtime jetons rank ((inscription, kind) :: reminders) site)
    (links : site.renouvelerLeLien runtime inscription (jetons rank) now = .ok renewed) :
    Ready runtime jetons (rank + 1) reminders
      ((renewed.envoyer inscription.id inscription.learner (.relance kind) (jetons rank)
        now).journaliser inscription kind now) := by
  obtain ⟨own, owns⟩ := List.forall_mem_cons.mp ready.own
  obtain ⟨apart, distinct⟩ := List.pairwise_cons.mp ready.distinct
  have linked := ready.sound.renouveler (ready.tokens.fresh 0 (Nat.zero_lt_succ _)) own links
  constructor
  · exact linked.of_same (.of_inscriptions rfl rfl)
  · refine ready.tokens.tail fun issue member => ?_
    obtain ⟨_, _, _, rfl⟩ := renouvelerLeLien_ok links
    rcases List.mem_cons.mp member with rfl | old
    · exact Or.inr rfl
    · exact Or.inl old
  · intro entry listed row member same
    obtain ⟨source, inside, key, tenant⟩ := exists_of_mem_renewed links member
    exact tenant ▸ owns entry listed source inside (key.trans same)
  · exact fun entry listed => ready.live entry (List.mem_cons_of_mem _ listed)
  · intro entry listed
    obtain ⟨source, inside, same⟩ := ready.present entry (List.mem_cons_of_mem _ listed)
    obtain ⟨row, member, key⟩ := exists_mem_renewed links inside
    exact ⟨row, member, key.trans same⟩
  · exact distinct
  · intro entry listed
    rw [Bool.eq_false_iff, ne_eq, dejaEnvoyee_journaliser]
    rintro (before | ⟨same, _⟩)
    · have former : site.dejaEnvoyee entry.1.id entry.2 = true := by
        rw [← before, dejaEnvoyee, dejaEnvoyee, ← (mails_renouvelerLeLien links).2]
        rfl
      exact Bool.false_ne_true
        ((ready.unlogged entry (List.mem_cons_of_mem _ listed)).symm.trans former)
    · exact apart entry listed same

/-- What a run delivers from a site that is ready, and that a run without failures logs
it all. -/
theorem Ready.delivers (ready : Ready runtime jetons rank reminders site) (now : Nat)
    (failures : Nat → Option FailurePoint) :
    ∃ couriers, List.Forall₂ (Delivers now) (delivered failures rank reminders) couriers ∧
      (envoyerToutes runtime now jetons failures rank reminders site).mails =
        site.mails ++ couriers := by
  induction reminders generalizing rank site with
  | nil => exact ⟨[], .nil, (List.append_nil _).symm⟩
  | cons entry rest ih =>
      obtain ⟨inscription, kind⟩ := entry
      obtain ⟨renewed, links, sends⟩ := ready.head now
      have mails := (mails_renouvelerLeLien links).1
      rw [envoyerToutes, sends, delivered]
      cases failures rank with
      | some point =>
          cases point with
          | renewal => exact ⟨[], .nil, (List.append_nil _).symm⟩
          | mail => exact ⟨[], .nil, mails.trans (List.append_nil _).symm⟩
          | log =>
              refine ⟨_, .cons (delivers_envoyer (jetons rank)) .nil, ?_⟩
              rw [← mails]
              rfl
      | none =>
          obtain ⟨couriers, carried, later⟩ := ih (ready.tail links)
          refine ⟨_, .cons (delivers_envoyer (jetons rank)) carried, later.trans ?_⟩
          rw [← mails]
          exact List.append_assoc renewed.mails [_] couriers

/-- What is logged stays so. -/
theorem dejaEnvoyee_envoyerToutes {key : Nat} {other : ReminderLog.Kind}
    (logged : site.dejaEnvoyee key other = true) :
    (envoyerToutes runtime now jetons failures rank reminders site).dejaEnvoyee key other =
      true := by
  have same {site renewed : TrainingSite} {inscription : Inscription} {jeton : String}
      (links : site.renouvelerLeLien runtime inscription jeton now = .ok renewed)
      (before : site.dejaEnvoyee key other = true) : renewed.dejaEnvoyee key other = true := by
    rw [← before, dejaEnvoyee, dejaEnvoyee, (mails_renouvelerLeLien links).2]
  exact envoyerToutes_invariant (P := fun site => site.dejaEnvoyee key other = true)
    (fun links before => same links before)
    (fun _ links before => by
      have kept := same links before
      exact kept)
    (fun _ _ before => dejaEnvoyee_journaliser.mpr (Or.inl before)) logged

/-- A run without failures logs all it sends. -/
theorem Ready.logs (ready : Ready runtime jetons rank reminders site) (now : Nat)
    (complete : ∀ rank, failures rank = none) :
    ∀ entry ∈ reminders,
      (envoyerToutes runtime now jetons failures rank reminders site).dejaEnvoyee entry.1.id
        entry.2 = true := by
  induction reminders generalizing rank site with
  | nil => exact fun entry listed => absurd listed List.not_mem_nil
  | cons entry rest ih =>
      obtain ⟨inscription, kind⟩ := entry
      obtain ⟨renewed, links, sends⟩ := ready.head now
      rw [envoyerToutes, sends, complete rank]
      dsimp only
      intro entry listed
      rcases List.mem_cons.mp listed with rfl | later
      · exact dejaEnvoyee_envoyerToutes (dejaEnvoyee_journaliser.mpr (Or.inr ⟨rfl, rfl⟩))
      · exact ih (ready.tail links) entry later

theorem delivered_of_complete (complete : ∀ rank, failures rank = none) :
    delivered failures rank reminders = reminders := by
  induction reminders generalizing rank with
  | nil => rfl
  | cons entry rest ih =>
      rw [delivered, complete rank]
      dsimp only
      rw [ih]

end Deliveries

/-! ## What there is to send -/

section DueReminders

variable {runtime : TrainingRuntime} {site : TrainingSite} {now : Nat} {row : Inscription}
  {kind : ReminderLog.Kind}

theorem due_of_natureDuJour (due : site.natureDuJour runtime now row = some kind) :
    site.relancable runtime now row = true ∧ site.aEnvoyer now row kind = true := by
  rw [natureDuJour] at due
  split at due
  · rename_i may
    exact ⟨may, List.find?_some due⟩
  · cases due

theorem exists_natureDuJour (may : site.relancable runtime now row = true)
    (ready : site.aEnvoyer now row kind = true) :
    ∃ first, site.natureDuJour runtime now row = some first := by
  rw [natureDuJour, if_pos may]
  refine Option.isSome_iff_exists.mp (List.find?_isSome.mpr ⟨kind, ?_, ready⟩)
  cases kind <;> simp

/-- What comes before the due date is sent only when there is nothing to send after it. -/
theorem natureDuJour_before (due : site.natureDuJour runtime now row = some kind)
    (early : kind ≠ .after) : site.aEnvoyer now row .after = false := by
  rw [natureDuJour] at due
  split at due
  · rw [List.find?_cons] at due
    split at due
    · exact absurd (Option.some.inj due).symm early
    · rename_i nothing
      exact nothing
  · cases due

theorem natureDuJour_after (due : site.natureDuJour runtime now row = some .after) :
    site.aEnvoyer now row .after = true :=
  (due_of_natureDuJour due).2

theorem distinct_relancesDuJour (runtime : TrainingRuntime) (site : TrainingSite) (now : Nat) :
    (site.relancesDuJour runtime now).Pairwise fun first second => first.1.id ≠ second.1.id := by
  have rows : site.inscriptions.rows.Pairwise fun first second => first.id ≠ second.id :=
    site.inscriptions.increasing.imp fun less => Nat.ne_of_lt less
  have sorted := ((List.perm_insertionSort (fun first second : Inscription =>
    second.createdAt ≤ first.createdAt) site.inscriptions.rows).pairwise_iff
      (R := fun first second : Inscription => first.id ≠ second.id) fun apart => apart.symm).mpr rows
  refine sorted.filterMap _ fun first second apart entry made other made' => ?_
  obtain ⟨_, _, rfl⟩ := Option.map_eq_some_iff.mp made
  obtain ⟨_, _, rfl⟩ := Option.map_eq_some_iff.mp made'
  exact apart

/-- The loop may start on what there is to send. -/
theorem ready_relancesDuJour {jetons : Nat → String} (sound : LinksSound runtime site)
    (tokens : FreshTokens runtime site jetons 0 (site.relancesDuJour runtime now).length) :
    Ready runtime jetons 0 (site.relancesDuJour runtime now) site where
  sound := sound
  tokens := tokens
  own entry listed := own_of_mem (mem_relancesDuJour.mp listed).1
  live entry listed := by
    have may := (due_of_natureDuJour (mem_relancesDuJour.mp listed).2).1
    rw [relancable, Bool.and_eq_true, Bool.and_eq_true] at may
    rw [Inscription.isRevoked, (isUsable_iff.mp may.1.2).1]
    rfl
  present entry listed := ⟨entry.1, (mem_relancesDuJour.mp listed).1, rfl⟩
  distinct := distinct_relancesDuJour runtime site now
  unlogged entry listed := by
    have ready := (due_of_natureDuJour (mem_relancesDuJour.mp listed).2).2
    rw [aEnvoyer, Bool.and_eq_true, Bool.and_eq_true, Bool.not_eq_true'] at ready
    exact ready.1.1

end DueReminders

/-! ## What the employees receive -/

/-- The reminders that an employee received on a day. -/
def relancesRecues (site : TrainingSite) (learner day : Nat) : Nat :=
  site.mails.countP fun mail =>
    mail.message != .invitation && mail.learner = learner && dateOf mail.sentAt = day

/-- The reminders of a kind that were sent for an enrolment. -/
def relancesDeNature (site : TrainingSite) (inscription : Nat) (kind : ReminderLog.Kind) : Nat :=
  site.mails.countP fun mail => mail.inscription = inscription && mail.message = .relance kind

/-- The enrolment lives, its course is not finished, and what announces the due date
comes before it. -/
structure Timely (runtime : TrainingRuntime) (site : TrainingSite) (mail : Mail)
    (kind : ReminderLog.Kind) (row : Inscription) : Prop where
  present : row ∈ site.inscriptions
  own : row.id = mail.inscription
  live : row.revokedAt = none
  dated : mail.sentAt ≤ row.expiresAt runtime
  unfinished : row.aTermine = false
  announces : kind ≠ .after → dateOf mail.sentAt ≤ row.dueDate

/-- After the step nobody has received two reminders on a day nor a kind twice, and the
reminders of the step are timely. -/
structure Respects (runtime : TrainingRuntime) (site : TrainingSite) (event : CampaignEvent) :
    Prop where
  daily : ∀ learner day, (site.step runtime event).relancesRecues learner day ≤ 1
  once : ∀ inscription kind, (site.step runtime event).relancesDeNature inscription kind ≤ 1
  timely : ∀ mail ∈ (site.step runtime event).mails.drop site.mails.length, ∀ kind,
    mail.message = .relance kind → ∃ row, Timely runtime site mail kind row

/-- There is something to send for the enrolment. -/
def aRelancer (runtime : TrainingRuntime) (site : TrainingSite) (now : Nat) (row : Inscription) :
    Bool :=
  site.relancable runtime now row &&
    [ReminderLog.Kind.after, .before, .mid].any (site.aEnvoyer now row)

/-- No employee has two enrolments to be reminded of, nor one after a reminder of the day;
past the due date, what comes before it is left only with what comes after; and what is
to be sent was not sent. -/
structure Calm (runtime : TrainingRuntime) (site : TrainingSite) (now : Nat) : Prop where
  single : ∀ first ∈ site.inscriptions.rows, ∀ second ∈ site.inscriptions.rows,
    site.aRelancer runtime now first = true → site.aRelancer runtime now second = true →
      first.learner = second.learner → first.id = second.id
  spaced : ∀ row ∈ site.inscriptions.rows, site.aRelancer runtime now row = true →
    site.relancesRecues row.learner (dateOf now) = 0
  ahead : ∀ row ∈ site.inscriptions.rows, site.aRelancer runtime now row = true →
    row.dueDate < dateOf now → site.aEnvoyer now row .after = true
  unsent : ∀ row ∈ site.inscriptions.rows, site.aRelancer runtime now row = true →
    ∀ kind, site.aEnvoyer now row kind = true → site.relancesDeNature row.id kind = 0

def CalmEvent (runtime : TrainingRuntime) (site : TrainingSite) : CampaignEvent → Prop
  | .relancer now _ _ => site.Calm runtime now
  | _ => True

/-- Nobody has received two reminders on a day, nor a kind twice. -/
structure Measured (site : TrainingSite) : Prop where
  daily : ∀ learner day, site.relancesRecues learner day ≤ 1
  once : ∀ inscription kind, site.relancesDeNature inscription kind ≤ 1

section Days

variable {runtime : TrainingRuntime} {site after : TrainingSite} {now : Nat} {row : Inscription}
  {sent : List (Inscription × ReminderLog.Kind)} {couriers : List Mail}

theorem aRelancer_of_natureDuJour {kind : ReminderLog.Kind}
    (due : site.natureDuJour runtime now row = some kind) :
    site.aRelancer runtime now row = true := by
  obtain ⟨may, ready⟩ := due_of_natureDuJour due
  rw [aRelancer, may, Bool.true_and, List.any_eq_true]
  refine ⟨kind, ?_, ready⟩
  cases kind <;> simp

theorem natureDuJour_of_aRelancer (due : site.aRelancer runtime now row = true) :
    ∃ kind, site.natureDuJour runtime now row = some kind := by
  rw [aRelancer, Bool.and_eq_true, List.any_eq_true] at due
  obtain ⟨may, kind, _, ready⟩ := due
  exact exists_natureDuJour may ready

/-- The reminders an employee receives of a run. -/
theorem relancesRecues_append (mails : after.mails = site.mails ++ couriers)
    (carried : List.Forall₂ (Delivers now) sent couriers) (learner day : Nat) :
    after.relancesRecues learner day ≤ 1 ↔
      site.relancesRecues learner day ≤ 1 ∧
        (sent.countP fun entry => entry.1.learner = learner && dateOf now = day) ≤ 1 ∧
        (0 < (sent.countP fun entry => entry.1.learner = learner && dateOf now = day) →
          site.relancesRecues learner day = 0) := by
  have counted := countP_of_forall₂ (fun entry : Inscription × ReminderLog.Kind =>
      entry.1.learner = learner && dateOf now = day)
    (fun mail : Mail =>
      mail.message != .invitation && mail.learner = learner && dateOf mail.sentAt = day)
    (fun entry mail delivers => by
      rw [delivers.message, delivers.learner, delivers.sentAt]
      rfl) carried
  rw [relancesRecues, mails, countP_append_le_one_iff, counted]
  rfl

theorem relancesDeNature_append (mails : after.mails = site.mails ++ couriers)
    (carried : List.Forall₂ (Delivers now) sent couriers) (inscription : Nat)
    (kind : ReminderLog.Kind) :
    after.relancesDeNature inscription kind ≤ 1 ↔
      site.relancesDeNature inscription kind ≤ 1 ∧
        (sent.countP fun entry => entry.1.id = inscription && entry.2 = kind) ≤ 1 ∧
        (0 < (sent.countP fun entry => entry.1.id = inscription && entry.2 = kind) →
          site.relancesDeNature inscription kind = 0) := by
  have counted := countP_of_forall₂ (fun entry : Inscription × ReminderLog.Kind =>
      entry.1.id = inscription && entry.2 = kind)
    (fun mail : Mail => mail.inscription = inscription && mail.message = .relance kind)
    (fun entry mail delivers => by
      rw [delivers.message, delivers.inscription]
      simp) carried
  rw [relancesDeNature, mails, countP_append_le_one_iff, counted]
  rfl

/-- A part of what there is to send, sent when all is calm, respects everything. -/
theorem Calm.respects (calm : site.Calm runtime now) (measured : Measured site)
    (mails : after.mails = site.mails ++ couriers)
    (carried : List.Forall₂ (Delivers now) sent couriers)
    (first : sent <+: site.relancesDuJour runtime now) : Measured after := by
  have due : ∀ entry ∈ sent, entry.1 ∈ site.inscriptions ∧
      site.natureDuJour runtime now entry.1 = some entry.2 :=
    fun entry listed => mem_relancesDuJour.mp (first.subset listed)
  have distinct := (distinct_relancesDuJour runtime site now).sublist first.sublist
  constructor
  · intro learner day
    refine (relancesRecues_append mails carried learner day).mpr ⟨measured.daily learner day, ?_, ?_⟩
    · refine countP_le_one_iff.mpr (distinct.imp_of_mem fun inside inside' apart both => ?_)
      simp only [Bool.and_eq_true, decide_eq_true_eq] at both
      exact apart (calm.single _ (due _ inside).1 _ (due _ inside').1
        (aRelancer_of_natureDuJour (due _ inside).2) (aRelancer_of_natureDuJour (due _ inside').2)
        (both.1.1.trans both.2.1.symm))
    · intro some
      obtain ⟨entry, listed, counted⟩ := List.countP_pos_iff.mp some
      simp only [Bool.and_eq_true, decide_eq_true_eq] at counted
      obtain ⟨rfl, rfl⟩ := counted
      exact calm.spaced _ (due _ listed).1 (aRelancer_of_natureDuJour (due _ listed).2)
  · intro inscription kind
    refine (relancesDeNature_append mails carried inscription kind).mpr
      ⟨measured.once inscription kind, ?_, ?_⟩
    · refine countP_le_one_iff.mpr (distinct.imp fun apart both => ?_)
      simp only [Bool.and_eq_true, decide_eq_true_eq] at both
      exact apart (both.1.1.trans both.2.1.symm)
    · intro some
      obtain ⟨entry, listed, counted⟩ := List.countP_pos_iff.mp some
      simp only [Bool.and_eq_true, decide_eq_true_eq] at counted
      obtain ⟨rfl, rfl⟩ := counted
      exact calm.unsent _ (due _ listed).1 (aRelancer_of_natureDuJour (due _ listed).2) _
        (due_of_natureDuJour (due _ listed).2).2

/-- What a run sends is for enrolments that live, and comes in time when all is calm. -/
theorem Calm.timely (calm : site.Calm runtime now)
    (carried : List.Forall₂ (Delivers now) sent couriers)
    (first : sent <+: site.relancesDuJour runtime now) :
    ∀ mail ∈ couriers, ∀ kind, mail.message = .relance kind →
      ∃ row, Timely runtime site mail kind row := by
  intro mail listed kind message
  obtain ⟨⟨row, nature⟩, inside, delivers⟩ := exists_left_of_forall₂ carried listed
  obtain ⟨present, due⟩ := mem_relancesDuJour.mp (first.subset inside)
  obtain rfl : nature = kind := Message.relance.inj (delivers.message.symm.trans message)
  have may := (due_of_natureDuJour due).1
  simp only [relancable, Bool.and_eq_true, Bool.not_eq_true'] at may
  obtain ⟨⟨_, usable⟩, unfinished⟩ := may
  obtain ⟨live, dated, _⟩ := isUsable_iff.mp usable
  refine ⟨row, present, delivers.inscription.symm, live, delivers.sentAt ▸ dated, unfinished,
    fun early => ?_⟩
  rw [delivers.sentAt]
  by_contra late
  exact Bool.false_ne_true ((natureDuJour_before due early).symm.trans
    (calm.ahead row present (aRelancer_of_natureDuJour due) (Nat.lt_of_not_le late)))

/-- When all that is due is sent and nothing is sent twice or late, all was calm. -/
theorem calm_of_respects (logged : ∀ mail ∈ site.mails, ∀ kind, mail.message = .relance kind →
      site.dejaEnvoyee mail.inscription kind = true)
    (mails : after.mails = site.mails ++ couriers)
    (carried : List.Forall₂ (Delivers now) (site.relancesDuJour runtime now) couriers)
    (measured : Measured after)
    (timely : ∀ mail ∈ couriers, ∀ kind, mail.message = .relance kind →
      ∃ row, Timely runtime site mail kind row) : site.Calm runtime now := by
  have due : ∀ row ∈ site.inscriptions.rows, site.aRelancer runtime now row = true →
      ∃ kind, (row, kind) ∈ site.relancesDuJour runtime now := by
    intro row present ready
    obtain ⟨kind, nature⟩ := natureDuJour_of_aRelancer ready
    exact ⟨kind, mem_relancesDuJour.mpr ⟨present, nature⟩⟩
  have daily := fun learner day =>
    (relancesRecues_append mails carried learner day).mp (measured.daily learner day)
  constructor
  · intro first inside second inside' ready ready' employee
    obtain ⟨kind, listed⟩ := due first inside ready
    obtain ⟨kind', listed'⟩ := due second inside' ready'
    have single := countP_le_one_iff.mp (daily first.learner (dateOf now)).2.1
    have symm : Std.Symm fun entry other : Inscription × ReminderLog.Kind =>
        ¬((entry.1.learner = first.learner && dateOf now = dateOf now) = true ∧
          (other.1.learner = first.learner && dateOf now = dateOf now) = true) :=
      ⟨fun _ _ apart both => apart both.symm⟩
    by_contra apart
    refine single.forall listed listed' (fun same => apart ?_) ⟨?_, ?_⟩
    · rw [(Prod.mk.inj same).1]
    · simp
    · simp [employee]
  · intro row inside ready
    obtain ⟨kind, listed⟩ := due row inside ready
    refine (daily row.learner (dateOf now)).2.2 (List.countP_pos_iff.mpr ⟨_, listed, ?_⟩)
    simp
  · intro row inside ready late
    obtain ⟨kind, nature⟩ := natureDuJour_of_aRelancer ready
    have listed : (row, kind) ∈ site.relancesDuJour runtime now :=
      mem_relancesDuJour.mpr ⟨inside, nature⟩
    obtain ⟨mail, received, delivers⟩ := exists_right_of_forall₂ carried listed
    obtain ⟨source, present, own, _, _, _, announces⟩ := timely mail received kind delivers.message
    have same : source = row :=
      Table.ident_injective present inside (own.trans delivers.inscription)
    rw [same, delivers.sentAt] at announces
    by_cases early : kind = .after
    · exact natureDuJour_after (early ▸ nature)
    · exact absurd (announces early) (Nat.not_le_of_lt late)
  · intro row inside ready kind new
    refine List.countP_eq_zero.mpr fun mail listed both => ?_
    simp only [Bool.and_eq_true, decide_eq_true_eq] at both
    have already := logged mail listed kind both.2
    rw [both.1] at already
    simp [aEnvoyer, already] at new

end Days

/-! ## Runs -/

/-- The run of the reminders meets no failure. -/
def Complete : CampaignEvent → Prop
  | .relancer _ _ failures => ∀ rank, failures rank = none
  | _ => True

/-- Every reminder that was sent is logged. -/
def Logged (site : TrainingSite) : Prop :=
  ∀ mail ∈ site.mails, ∀ kind, mail.message = .relance kind →
    site.dejaEnvoyee mail.inscription kind = true

section Runs

variable {runtime : TrainingRuntime} {site : TrainingSite} {event : CampaignEvent}

/-- What is not a run of the reminders sends at most an invitation, with a token that was
issued. -/
theorem mails_step (runtime : TrainingRuntime) (site : TrainingSite)
    (other : event.isReminders = false) :
    ∃ extra, (site.step runtime event).mails = site.mails ++ extra ∧
      (∀ mail ∈ extra, mail.message = .invitation ∧
        ∃ issue ∈ (site.step runtime event).issued, issue.jeton = mail.jeton) ∧
      (site.step runtime event).reminders = site.reminders := by
  have quiet {after : TrainingSite} (mails : after.mails = site.mails)
      (reminders : after.reminders = site.reminders) :
      ∃ extra, after.mails = site.mails ++ extra ∧
        (∀ mail ∈ extra, mail.message = .invitation ∧
          ∃ issue ∈ after.issued, issue.jeton = mail.jeton) ∧
        after.reminders = site.reminders :=
    ⟨[], mails.trans (List.append_nil _).symm, fun mail listed => absurd listed List.not_mem_nil,
      reminders⟩
  cases event with
  | inscrire tenant learner course dueDate actor jeton mailed now =>
      rcases step_inscrire runtime site tenant learner course dueDate actor jeton mailed now with
        same | ⟨employee, row, enrols⟩
      · rw [same]
        exact quiet rfl rfl
      · refine ⟨_, enrols.mails, fun mail listed => ?_, enrols.reminders⟩
        rw [List.mem_singleton.mp listed, enrols.issued]
        exact ⟨rfl, _, List.mem_cons_self, rfl⟩
  | renouveler tenant inscription jeton now =>
      rcases step_renouveler runtime site tenant inscription jeton now with
        same | ⟨row, member, renewed⟩
      · rw [same]
        exact quiet rfl rfl
      · exact quiet (mails_renouvelerLeLien renewed).1 (mails_renouvelerLeLien renewed).2
  | relancer now jetons failures => cases other
  | _ => exact quiet (quiet_step rfl).mails (quiet_step rfl).reminders

theorem relancesDeNature_of_isReminders_eq_false (other : event.isReminders = false)
    (inscription : Nat) (kind : ReminderLog.Kind) :
    (site.step runtime event).relancesDeNature inscription kind =
      site.relancesDeNature inscription kind := by
  obtain ⟨extra, mails, invitations, _⟩ := mails_step runtime site other
  have none : (extra.countP fun mail =>
      mail.inscription = inscription && mail.message = .relance kind) = 0 :=
    List.countP_eq_zero.mpr fun mail listed => by simp [(invitations mail listed).1]
  rw [relancesDeNature, mails, List.countP_append, none]
  rfl

theorem respects_of_isReminders_eq_false (measured : Measured site)
    (other : event.isReminders = false) : Respects runtime site event := by
  obtain ⟨extra, mails, invitations, _⟩ := mails_step runtime site other
  refine ⟨fun learner day => ?_, fun inscription kind => ?_, fun mail listed kind message => ?_⟩
  · have none : (extra.countP fun mail =>
        mail.message != .invitation && mail.learner = learner && dateOf mail.sentAt = day) = 0 :=
      List.countP_eq_zero.mpr fun mail listed => by simp [(invitations mail listed).1]
    rw [relancesRecues, mails, List.countP_append, none]
    exact measured.daily learner day
  · rw [relancesDeNature_of_isReminders_eq_false other]
    exact measured.once inscription kind
  · rw [mails, List.drop_left] at listed
    cases (invitations mail listed).1.symm.trans message

/-- A run of the reminders respects everything when all is calm. -/
theorem respects_of_calm (measured : Measured site) (calm : site.CalmEvent runtime event) :
    Respects runtime site event := by
  cases other : event.isReminders with
  | false => exact respects_of_isReminders_eq_false measured other
  | true =>
      cases event with
      | relancer now jetons failures =>
          obtain ⟨sent, couriers, first, carried, mails⟩ := mails_envoyerToutes runtime now jetons
            failures (site.relancesDuJour runtime now) 0 site
          have later := Calm.respects calm measured mails carried first
          refine ⟨later.daily, later.once, fun mail listed kind message => ?_⟩
          have listed : mail ∈ (site.envoyerLesRelances runtime now jetons failures).mails.drop
              site.mails.length := listed
          rw [envoyerLesRelances, mails, List.drop_left] at listed
          exact Calm.timely calm carried first mail listed kind message
      | _ => cases other

theorem calmEvent_of_respects (sound : LinksSound runtime site) (logged : Logged site)
    (fresh : site.Fresh runtime event) (complete : Complete event)
    (respects : Respects runtime site event) : site.CalmEvent runtime event := by
  cases event with
  | relancer now jetons failures =>
      obtain ⟨couriers, carried, mails⟩ :=
        (ready_relancesDuJour sound (freshTokens_of_fresh fresh)).delivers now failures
      rw [delivered_of_complete complete] at carried
      refine calm_of_respects logged mails carried ⟨respects.daily, respects.once⟩
        fun mail listed => respects.timely mail ?_
      have later : mail ∈ (site.envoyerLesRelances runtime now jetons failures).mails.drop
          site.mails.length := by
        rw [envoyerLesRelances, mails, List.drop_left]
        exact listed
      exact later
  | _ => trivial

theorem Logged.step (sound : LinksSound runtime site) (logged : Logged site)
    (fresh : site.Fresh runtime event) (complete : Complete event) :
    Logged (site.step runtime event) := by
  cases other : event.isReminders with
  | false =>
      obtain ⟨extra, mails, invitations, reminders⟩ :=
        mails_step runtime site other
      intro mail listed kind message
      rw [mails, List.mem_append] at listed
      rw [dejaEnvoyee, reminders]
      rcases listed with before | new
      · exact logged mail before kind message
      · cases (invitations mail new).1.symm.trans message
  | true =>
      cases event with
      | relancer now jetons failures =>
          have ready := ready_relancesDuJour sound (freshTokens_of_fresh fresh)
          obtain ⟨couriers, carried, mails⟩ := ready.delivers now failures
          rw [delivered_of_complete complete] at carried
          intro mail listed kind message
          have listed : mail ∈ (site.envoyerLesRelances runtime now jetons failures).mails := listed
          rw [envoyerLesRelances, mails, List.mem_append] at listed
          rcases listed with before | new
          · exact dejaEnvoyee_envoyerToutes (logged mail before kind message)
          · obtain ⟨entry, inside, delivers⟩ := exists_left_of_forall₂ carried new
            have sent := ready.logs now complete entry inside
            rw [delivers.inscription,
              ← Message.relance.inj (delivers.message.symm.trans message)]
            exact sent
      | _ => cases other

/-- In a run from a site without enrolments in which all is calm at every run of the
reminders, whatever fails, nobody receives two reminders on a day nor a kind twice, and
no reminder comes late; with new tokens and no failure, in no other run. -/
theorem reminders_respected_iff (runtime : TrainingRuntime) (start : TrainingSite)
    (inscriptions : start.inscriptions.rows = []) (issued : start.issued = [])
    (mails : start.mails = []) (events : List CampaignEvent) :
    (EachStep (step runtime) (CalmEvent runtime) start events →
      EachStep (step runtime) (Respects runtime) start events) ∧
    (EachStep (step runtime) (fun site event => Fresh runtime site event ∧ Complete event) start
        events →
      (EachStep (step runtime) (Respects runtime) start events ↔
        EachStep (step runtime) (CalmEvent runtime) start events)) := by
  have measured : Measured start := by
    constructor
    · intro learner day
      rw [relancesRecues, mails]
      exact Nat.zero_le 1
    · intro inscription kind
      rw [relancesDeNature, mails]
      exact Nat.zero_le 1
  have respected : EachStep (step runtime) (CalmEvent runtime) start events →
      EachStep (step runtime) (Respects runtime) start events := by
    intro calm
    have gives : ∀ site event, Measured site → CalmEvent runtime site event →
        Respects runtime site event := fun _ _ before now => respects_of_calm before now
    refine calm.imp_of_always gives (always_of_eachStep measured ?_)
    refine calm.imp fun site event now before => ?_
    have later := gives site event before now
    exact ⟨later.daily, later.once⟩
  refine ⟨respected, fun assumed => ⟨fun respects => ?_, respected⟩⟩
  have invariant : Always (step runtime) (fun site => LinksSound runtime site ∧ Logged site) start
      events := by
    refine always_of_eachStep ⟨.of_empty inscriptions issued, fun mail listed => ?_⟩
      (assumed.imp fun site event now before =>
        ⟨before.1.step now.1, before.2.step before.1 now.1 now.2⟩)
    rw [mails] at listed
    exact absurd listed List.not_mem_nil
  exact (respects.and assumed).imp_of_always (fun site event before now =>
    calmEvent_of_respects before.1 before.2 now.2.1 now.2.2 now.1) invariant

/-- One course, reminded of in the middle, before the due date and after it. -/
def calmRun : List CampaignEvent :=
  [.inscrire 0 0 0 20 none "jeton-a" true (10 * 86400),
    .relancer (16 * 86400) (fun _ => "jeton-b") fun _ => none,
    .relancer (18 * 86400) (fun _ => "jeton-c") fun _ => none,
    .relancer (23 * 86400) (fun _ => "jeton-d") fun _ => none]

theorem reminders_respected_iff_calmRun :
    EachStep (step companyRuntime) (Respects companyRuntime) companySite calmRun ∧
      (EachStep (step companyRuntime) (Respects companyRuntime) companySite calmRun ↔
        EachStep (step companyRuntime) (CalmEvent companyRuntime) companySite calmRun) := by
  have respected := reminders_respected_iff companyRuntime companySite rfl rfl rfl calmRun
  refine ⟨respected.1 ⟨trivial, ⟨?_, ?_, ?_, ?_⟩, ⟨?_, ?_, ?_, ?_⟩, ⟨?_, ?_, ?_, ?_⟩, trivial⟩,
    respected.2 ⟨⟨?_, trivial⟩, ⟨?_, fun _ => rfl⟩, ⟨?_, fun _ => rfl⟩, ⟨?_, fun _ => rfl⟩,
      trivial⟩⟩
  all_goals decide +kernel

/-- An employee with two courses gets two reminders at once; two runs on one day send two
kinds; and after days without a run the approach of the due date is announced past it. -/
theorem reminders_not_respected :
    ¬EachStep (step companyRuntime) (Respects companyRuntime) companySite
        [.inscrire 0 0 0 20 none "jeton-a" true (10 * 86400),
          .inscrire 0 0 1 20 none "jeton-b" true (10 * 86400),
          .relancer (16 * 86400) (fun rank => if rank = 0 then "jeton-c" else "jeton-d")
            fun _ => none] ∧
      ¬EachStep (step companyRuntime) (Respects companyRuntime) companySite
        [.inscrire 0 0 0 20 none "jeton-a" true (10 * 86400),
          .relancer (18 * 86400) (fun _ => "jeton-b") (fun _ => none),
          .relancer (18 * 86400 + 600) (fun _ => "jeton-c") fun _ => none] ∧
      ¬EachStep (step companyRuntime) (Respects companyRuntime) companySite
        [.inscrire 0 0 0 20 none "jeton-a" true (10 * 86400),
          .relancer (21 * 86400) (fun _ => "jeton-b") fun _ => none] := by
  refine ⟨?_, ?_, ?_⟩
  · rintro ⟨_, _, respects, _⟩
    have two := respects.daily 0 16
    revert two
    decide +kernel
  · rintro ⟨_, _, respects, _⟩
    have two := respects.daily 0 18
    revert two
    decide +kernel
  · rintro ⟨_, respects, _⟩
    obtain ⟨row, present, _, _, _, _, announces⟩ := respects.timely
      ⟨0, 0, .relance .before, "jeton-b", 21 * 86400⟩ (by decide +kernel) .before rfl
    have due : ∀ row ∈ (step companyRuntime companySite
        (.inscrire 0 0 0 20 none "jeton-a" true (10 * 86400))).inscriptions.rows,
        row.dueDate = 20 := by decide +kernel
    have late := announces (by decide)
    rw [due row present] at late
    revert late
    decide

end Runs

end TrainingSite

end RssiService.Training
