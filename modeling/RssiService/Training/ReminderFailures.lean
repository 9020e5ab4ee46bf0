import RssiService.Training.Reminders

/-!
# Reminders that fail

A reminder kills the former link, mails the new one and logs it last, and the task is
tried again after a failure.  An employee is to keep a link that works, and no kind is to
be delivered twice.
-/

namespace RssiService.Training

open Foundation Foundation.Run Python

namespace TrainingSite

/-- The employee has received a link that works for the enrolment. -/
def HoldsLink (runtime : TrainingRuntime) (site : TrainingSite) (now key : Nat) : Prop :=
  ∃ mail ∈ site.mails, mail.inscription = key ∧
    ∃ row, site.Opens runtime mail.jeton now row ∧ row.id = key

/-- The last link of the enrolment was mailed. -/
def Mailed (runtime : TrainingRuntime) (site : TrainingSite) (key : Nat) : Prop :=
  ∃ row ∈ site.inscriptions, row.id = key ∧
    ∃ mail ∈ site.mails, mail.inscription = key ∧ row.tokenHash = runtime.hacher mail.jeton

def UsableAt (runtime : TrainingRuntime) (site : TrainingSite) (now key : Nat) : Prop :=
  ∃ row ∈ site.inscriptions, row.id = key ∧ site.isUsable runtime now row = true

/-- The tokens that were mailed were issued. -/
def MailsIssued (site : TrainingSite) : Prop :=
  ∀ mail ∈ site.mails, ∃ issue ∈ site.issued, issue.jeton = mail.jeton

/-- The reminder whose link is renewed and whose mail fails. -/
def interrupted (failures : Nat → Option FailurePoint) :
    Nat → List (Inscription × ReminderLog.Kind) → Option (Inscription × ReminderLog.Kind)
  | _, [] => none
  | rank, entry :: rest =>
      match failures rank with
      | none => interrupted failures (rank + 1) rest
      | some .mail => some entry
      | some .renewal | some .log => none

/-- No reminder from a rank on has failed before this one. -/
def Reached (failures : Nat → Option FailurePoint) (rank offset : Nat) : Prop :=
  ∀ other < offset, failures (rank + other) = none

section Ranks

variable {failures : Nat → Option FailurePoint} {rank : Nat}
  {entry : Inscription × ReminderLog.Kind} {reminders : List (Inscription × ReminderLog.Kind)}

theorem reached_succ {offset : Nat} :
    Reached failures rank (offset + 1) ↔
      failures rank = none ∧ Reached failures (rank + 1) offset := by
  constructor
  · intro reached
    refine ⟨reached 0 (Nat.zero_lt_succ _), fun other bound => ?_⟩
    rw [Nat.add_right_comm]
    exact reached (other + 1) (Nat.succ_lt_succ bound)
  · rintro ⟨first, reached⟩ other bound
    cases other with
    | zero => exact first
    | succ other =>
        rw [← Nat.add_assoc, Nat.add_right_comm]
        exact reached other (Nat.lt_of_succ_lt_succ bound)

/-- What is reached is the first reminder, or is reached after the first one succeeds. -/
theorem exists_reached_cons {head : Inscription × ReminderLog.Kind}
    (outcome : Option FailurePoint → Prop) :
    (∃ offset, (head :: reminders)[offset]? = some entry ∧ Reached failures rank offset ∧
        outcome (failures (rank + offset))) ↔
      head = entry ∧ outcome (failures rank) ∨
        failures rank = none ∧ ∃ offset, reminders[offset]? = some entry ∧
          Reached failures (rank + 1) offset ∧ outcome (failures (rank + 1 + offset)) := by
  constructor
  · rintro ⟨offset, listed, reached, fails⟩
    cases offset with
    | zero => exact Or.inl ⟨Option.some.inj listed, fails⟩
    | succ offset =>
        obtain ⟨first, reached⟩ := reached_succ.mp reached
        rw [← Nat.add_assoc, Nat.add_right_comm] at fails
        exact Or.inr ⟨first, offset, listed, reached, fails⟩
  · rintro (⟨rfl, fails⟩ | ⟨first, offset, listed, reached, fails⟩)
    · exact ⟨0, rfl, fun other bound => absurd bound (Nat.not_lt_zero other), fails⟩
    · refine ⟨offset + 1, listed, reached_succ.mpr ⟨first, reached⟩, ?_⟩
      rw [← Nat.add_assoc, Nat.add_right_comm]
      exact fails

theorem interrupted_eq_some_iff :
    interrupted failures rank reminders = some entry ↔
      ∃ offset, reminders[offset]? = some entry ∧ Reached failures rank offset ∧
        failures (rank + offset) = some .mail := by
  induction reminders generalizing rank with
  | nil => simp [interrupted]
  | cons head rest ih =>
      rw [exists_reached_cons fun outcome => outcome = some .mail, ← ih, interrupted]
      cases fails : failures rank with
      | none => simp
      | some point =>
          cases point with
          | renewal => simp
          | mail => simp
          | log => simp

theorem mem_delivered_iff :
    entry ∈ delivered failures rank reminders ↔
      ∃ offset, reminders[offset]? = some entry ∧ Reached failures rank offset ∧
        (failures (rank + offset) = none ∨ failures (rank + offset) = some .log) := by
  induction reminders generalizing rank with
  | nil => simp [delivered]
  | cons head rest ih =>
      rw [exists_reached_cons fun outcome => outcome = none ∨ outcome = some .log, ← ih,
        delivered]
      cases fails : failures rank with
      | none => simp [eq_comm]
      | some point =>
          cases point with
          | renewal => simp
          | mail => simp
          | log => simp [eq_comm]

theorem mem_of_interrupted (lost : interrupted failures rank reminders = some entry) :
    entry ∈ reminders := by
  obtain ⟨offset, listed, _⟩ := interrupted_eq_some_iff.mp lost
  exact List.mem_of_getElem? listed

theorem delivered_initial (failures : Nat → Option FailurePoint) (rank : Nat)
    (reminders : List (Inscription × ReminderLog.Kind)) :
    delivered failures rank reminders <+: reminders := by
  induction reminders generalizing rank with
  | nil => exact List.prefix_refl _
  | cons head rest ih =>
      rw [delivered]
      cases failures rank with
      | none => exact (List.prefix_cons_inj _).mpr (ih _)
      | some point =>
          cases point with
          | renewal => exact List.nil_prefix
          | mail => exact List.nil_prefix
          | log => exact ⟨rest, rfl⟩

end Ranks

section Links

variable {runtime : TrainingRuntime} {site renewed : TrainingSite} {now rank key : Nat}
  {jeton : String} {jetons : Nat → String} {failures : Nat → Option FailurePoint}
  {inscription : Inscription} {kind : ReminderLog.Kind}
  {reminders : List (Inscription × ReminderLog.Kind)}

theorem holdsLink_iff (sound : LinksSound runtime site) (issued : MailsIssued site) :
    site.HoldsLink runtime now key ↔ site.Mailed runtime key ∧ site.UsableAt runtime now key := by
  constructor
  · rintro ⟨mail, listed, own, row, opens, same⟩
    obtain ⟨inside, _, hash, usable⟩ := sound.opens_iff_tokenHash.mp opens
    exact ⟨⟨row, inside, same, mail, listed, own, hash⟩, row, inside, same, usable⟩
  · rintro ⟨⟨row, inside, same, mail, listed, own, hash⟩, other, inside', same', usable⟩
    obtain rfl : row = other := Table.ident_injective inside inside' (same.trans same'.symm)
    obtain ⟨issue, member, equal⟩ := issued mail listed
    have written : mail.jeton ≠ "" := equal ▸ sound.written issue member
    exact ⟨mail, listed, own, row,
      sound.opens_iff_tokenHash.mpr ⟨inside, written, hash, usable⟩, same⟩

/-- A renewal takes the mailed link away. -/
theorem mailed_renewed (issued : MailsIssued site) (fresh : site.FreshToken runtime jeton)
    (links : site.renouvelerLeLien runtime inscription jeton now = .ok renewed) :
    renewed.Mailed runtime key ↔ site.Mailed runtime key ∧ inscription.id ≠ key := by
  have mails := (mails_renouvelerLeLien links).1
  constructor
  · rintro ⟨row, member, same, mail, listed, own, hash⟩
    obtain ⟨source, inside, rfl⟩ := (mem_renewed links).mp member
    rw [mails] at listed
    by_cases here : ident source = inscription.id
    · rw [if_pos here] at hash
      obtain ⟨issue, present, equal⟩ := issued mail listed
      exact absurd (equal ▸ hash) (fresh.2 issue present)
    · rw [if_neg here] at same hash
      exact ⟨⟨source, inside, same, mail, listed, own, hash⟩, fun other =>
        here (same.trans other.symm)⟩
  · rintro ⟨⟨row, inside, same, mail, listed, own, hash⟩, other⟩
    have apart : ¬ident row = inscription.id := fun here => other (here.symm.trans same)
    exact ⟨row, (mem_renewed links).mpr ⟨row, inside, if_neg apart⟩, same, mail,
      mails ▸ listed, own, hash⟩

/-- The mail gives the new link. -/
theorem mailed_envoyer (issued : MailsIssued site) (fresh : site.FreshToken runtime jeton)
    (links : site.renouvelerLeLien runtime inscription jeton now = .ok renewed) :
    (renewed.envoyer inscription.id inscription.learner (.relance kind) jeton now).Mailed runtime
        key ↔ inscription.id = key ∨ site.Mailed runtime key := by
  constructor
  · rintro ⟨row, member, same, mail, listed, own, hash⟩
    rcases List.mem_append.mp listed with before | new
    · exact Or.inr ((mailed_renewed issued fresh links).mp
        ⟨row, member, same, mail, before, own, hash⟩).1
    · rw [List.mem_singleton.mp new] at own
      exact Or.inl own
  · intro either
    by_cases here : inscription.id = key
    · obtain ⟨_, _, ⟨source, inside, own⟩, _⟩ := renouvelerLeLien_ok links
      have present := (mem_renewed links).mpr ⟨source, inside, if_pos own⟩
      exact ⟨_, present, own.trans here, _, List.mem_append_right _ List.mem_cons_self, here, rfl⟩
    · have before := either.resolve_left here
      obtain ⟨row, member, same, mail, listed, own, hash⟩ :=
        (mailed_renewed issued fresh links).mpr ⟨before, here⟩
      exact ⟨row, member, same, mail, List.mem_append_left _ listed, own, hash⟩

theorem MailsIssued.envoyer (issued : MailsIssued site)
    (links : site.renouvelerLeLien runtime inscription jeton now = .ok renewed) :
    MailsIssued (renewed.envoyer inscription.id inscription.learner (.relance kind) jeton now) := by
  obtain ⟨_, _, _, rfl⟩ := renouvelerLeLien_ok links
  intro mail listed
  rcases List.mem_append.mp listed with before | new
  · obtain ⟨issue, present, same⟩ := issued mail before
    exact ⟨issue, List.mem_cons_of_mem _ present, same⟩
  · rw [List.mem_singleton.mp new]
    exact ⟨_, List.mem_cons_self, rfl⟩

/-- The links that are mailed after a run: those delivered, and the former ones but for
the one whose mail failed. -/
theorem Ready.mailed_iff (ready : Ready runtime jetons rank reminders site)
    (issued : MailsIssued site) (now : Nat) (failures : Nat → Option FailurePoint) (key : Nat) :
    (envoyerToutes runtime now jetons failures rank reminders site).Mailed runtime key ↔
      (∃ entry ∈ delivered failures rank reminders, entry.1.id = key) ∨
        site.Mailed runtime key ∧
          ∀ entry, interrupted failures rank reminders = some entry → entry.1.id ≠ key := by
  induction reminders generalizing rank site with
  | nil => simp [envoyerToutes, delivered, interrupted]
  | cons entry rest ih =>
      obtain ⟨inscription, kind⟩ := entry
      obtain ⟨renewed, links, sends⟩ := ready.head now
      have fresh := ready.tokens.fresh 0 (Nat.zero_lt_succ _)
      rw [envoyerToutes, sends, delivered, interrupted]
      cases failures rank with
      | some point =>
          cases point with
          | renewal => simp
          | mail => simpa using mailed_renewed issued fresh links
          | log => simpa using mailed_envoyer issued fresh links
      | none =>
          dsimp only
          have later := ready.tail links
          have apart := (List.pairwise_cons.mp ready.distinct).1
          have mailed : ((renewed.envoyer inscription.id inscription.learner (.relance kind)
              (jetons rank) now).journaliser inscription kind now).Mailed runtime key ↔
              inscription.id = key ∨ site.Mailed runtime key :=
            mailed_envoyer issued fresh links
          rw [ih later (issued.envoyer links), mailed]
          by_cases here : inscription.id = key
          · have kept : ∀ entry, interrupted failures (rank + 1) rest = some entry →
                entry.1.id ≠ key :=
              fun entry lost same => apart entry (mem_of_interrupted lost) (here.trans same.symm)
            exact iff_of_true (Or.inr ⟨Or.inl here, kept⟩)
              (Or.inl ⟨_, List.mem_cons_self, here⟩)
          · rw [or_iff_right here]
            simp [here]

theorem usableAt_renewed (links : site.renouvelerLeLien runtime inscription jeton now =
    .ok renewed) (instant key : Nat) :
    renewed.UsableAt runtime instant key ↔ site.UsableAt runtime instant key := by
  have learners : renewed.learners = site.learners := by
    obtain ⟨_, _, _, rfl⟩ := renouvelerLeLien_ok links
    rfl
  have same : ∀ source : Inscription, (if ident source = inscription.id then
      source.withLink (runtime.hacher jeton) now else source).id = source.id ∧
      renewed.isUsable runtime instant (if ident source = inscription.id then
        source.withLink (runtime.hacher jeton) now else source) =
        site.isUsable runtime instant source := by
    intro source
    split
    · exact ⟨rfl, by rw [isUsable, isUsable, learnerActive, learnerActive, learners]; rfl⟩
    · exact ⟨rfl, by rw [isUsable, isUsable, learnerActive, learnerActive, learners]⟩
  constructor
  · rintro ⟨row, member, own, usable⟩
    obtain ⟨source, inside, rfl⟩ := (mem_renewed links).mp member
    exact ⟨source, inside, (same source).1.symm.trans own, (same source).2.symm.trans usable⟩
  · rintro ⟨source, inside, own, usable⟩
    exact ⟨_, (mem_renewed links).mpr ⟨source, inside, rfl⟩, (same source).1.trans own,
      (same source).2.trans usable⟩

/-- A run neither revives an enrolment nor ends one. -/
theorem usableAt_envoyerToutes (runtime : TrainingRuntime) (now : Nat) (jetons : Nat → String)
    (failures : Nat → Option FailurePoint) (reminders : List (Inscription × ReminderLog.Kind))
    (rank : Nat) (site : TrainingSite) (instant key : Nat) :
    (envoyerToutes runtime now jetons failures rank reminders site).UsableAt runtime instant key ↔
      site.UsableAt runtime instant key :=
  envoyerToutes_invariant
    (P := fun later => later.UsableAt runtime instant key ↔ site.UsableAt runtime instant key)
    (fun links same => (usableAt_renewed links instant key).trans same)
    (fun _ links same => by
      have kept := usableAt_renewed links instant key
      exact kept.trans same)
    (fun _ _ same => same) Iff.rfl

/-- A run enrols nobody. -/
theorem ids_envoyerToutes {row : Inscription}
    (member : row ∈ (envoyerToutes runtime now jetons failures rank reminders site).inscriptions) :
    ∃ source ∈ site.inscriptions, source.id = row.id := by
  have earlier {middle renewed : TrainingSite} {inscription : Inscription} {jeton : String}
      (links : middle.renouvelerLeLien runtime inscription jeton now = .ok renewed)
      (known : ∀ row ∈ middle.inscriptions, ∃ source ∈ site.inscriptions, source.id = row.id) :
      ∀ row ∈ renewed.inscriptions, ∃ source ∈ site.inscriptions, source.id = row.id := by
    intro row member
    obtain ⟨source, inside, same, _⟩ := exists_of_mem_renewed links member
    obtain ⟨first, present, key⟩ := known source inside
    exact ⟨first, present, key.trans same⟩
  exact envoyerToutes_invariant
    (P := fun later => ∀ row ∈ later.inscriptions, ∃ source ∈ site.inscriptions,
      source.id = row.id)
    (fun links known => earlier links known)
    (fun _ links known => by
      have kept := earlier links known
      exact kept)
    (fun _ _ known => known) (fun row inside => ⟨row, inside, rfl⟩) row member

theorem mailsIssued_envoyerToutes (issued : MailsIssued site) :
    MailsIssued (envoyerToutes runtime now jetons failures rank reminders site) := by
  refine envoyerToutes_invariant (P := MailsIssued) (fun links before mail listed => ?_)
    (fun _ links before => before.envoyer links) (fun _ _ before => before) issued
  rw [(mails_renouvelerLeLien links).1] at listed
  obtain ⟨issue, present, same⟩ := before mail listed
  exact ⟨issue, keeps_renouvelerLeLien links present, same⟩

end Links

/-! ## Attempts -/

/-- The step takes no link that works away from an employee, and no kind has been
delivered twice after it. -/
structure Spares (runtime : TrainingRuntime) (site : TrainingSite) (event : CampaignEvent) :
    Prop where
  links : ∀ now jetons failures, event = .relancer now jetons failures → ∀ key,
    site.HoldsLink runtime now key → (site.step runtime event).HoldsLink runtime now key
  once : ∀ inscription kind, (site.step runtime event).relancesDeNature inscription kind ≤ 1

/-- The reminder that is stopped at its mail, if there is one, is for an employee without
a link that works; and none that is reached was delivered before. -/
structure Spared (runtime : TrainingRuntime) (site : TrainingSite) (now : Nat)
    (failures : Nat → Option FailurePoint) : Prop where
  mail : ∀ rank entry, (site.relancesDuJour runtime now)[rank]? = some entry →
    (∀ other < rank, failures other = none) → failures rank = some .mail →
      ¬site.HoldsLink runtime now entry.1.id
  log : ∀ rank entry, (site.relancesDuJour runtime now)[rank]? = some entry →
    (∀ other < rank, failures other = none) →
      failures rank = none ∨ failures rank = some .log →
        site.relancesDeNature entry.1.id entry.2 = 0

def SparedEvent (runtime : TrainingRuntime) (site : TrainingSite) : CampaignEvent → Prop
  | .relancer now _ failures => site.Spared runtime now failures
  | _ => True

/-- Every enrolment whose link works has it in a mail. -/
def LinksHeld (runtime : TrainingRuntime) (site : TrainingSite) : Prop :=
  ∀ now, ∀ row ∈ site.inscriptions, site.isUsable runtime now row = true →
    site.HoldsLink runtime now row.id

section Attempts

variable {runtime : TrainingRuntime} {site after : TrainingSite} {now : Nat} {jetons : Nat → String}
  {failures : Nat → Option FailurePoint} {event : CampaignEvent}

theorem spared_iff :
    site.Spared runtime now failures ↔
      (∀ entry, interrupted failures 0 (site.relancesDuJour runtime now) = some entry →
        ¬site.HoldsLink runtime now entry.1.id) ∧
      ∀ entry ∈ delivered failures 0 (site.relancesDuJour runtime now),
        site.relancesDeNature entry.1.id entry.2 = 0 := by
  have from_zero : ∀ rank, Reached failures 0 rank ↔ ∀ other < rank, failures other = none := by
    intro rank
    simp only [Reached, Nat.zero_add]
  constructor
  · intro spared
    refine ⟨fun entry lost => ?_, fun entry sent => ?_⟩
    · obtain ⟨rank, listed, reached, fails⟩ := interrupted_eq_some_iff.mp lost
      rw [Nat.zero_add] at fails
      exact spared.mail rank entry listed ((from_zero rank).mp reached) fails
    · obtain ⟨rank, listed, reached, fails⟩ := mem_delivered_iff.mp sent
      rw [Nat.zero_add] at fails
      exact spared.log rank entry listed ((from_zero rank).mp reached) fails
  · rintro ⟨mail, log⟩
    refine ⟨fun rank entry listed reached fails => ?_, fun rank entry listed reached fails => ?_⟩
    · refine mail entry (interrupted_eq_some_iff.mpr ⟨rank, listed, (from_zero rank).mpr reached, ?_⟩)
      rw [Nat.zero_add]
      exact fails
    · refine log entry (mem_delivered_iff.mpr ⟨rank, listed, (from_zero rank).mpr reached, ?_⟩)
      rw [Nat.zero_add]
      exact fails

/-- An attempt without a failure at a mail, with nothing to send that was delivered. -/
theorem spared_of_unsent (sends : ∀ rank, failures rank ≠ some .mail)
    (unsent : ∀ entry ∈ site.relancesDuJour runtime now,
      site.relancesDeNature entry.1.id entry.2 = 0) : site.Spared runtime now failures :=
  ⟨fun rank _ _ _ fails => absurd fails (sends rank),
    fun _ entry listed _ _ => unsent entry (List.mem_of_getElem? listed)⟩

/-- What is stopped at its mail is not among what is delivered. -/
theorem interrupted_apart {reminders : List (Inscription × ReminderLog.Kind)} {rank : Nat}
    {entry other : Inscription × ReminderLog.Kind}
    (distinct : reminders.Pairwise fun first second => first.1.id ≠ second.1.id)
    (lost : interrupted failures rank reminders = some entry)
    (sent : other ∈ delivered failures rank reminders) : other.1.id ≠ entry.1.id := by
  induction reminders generalizing rank with
  | nil => cases sent
  | cons head rest ih =>
      obtain ⟨apart, distinct⟩ := List.pairwise_cons.mp distinct
      rw [interrupted] at lost
      rw [delivered] at sent
      cases fails : failures rank with
      | none =>
          rw [fails] at lost sent
          rcases List.mem_cons.mp sent with rfl | later
          · exact apart entry (mem_of_interrupted lost)
          · exact ih distinct lost later
      | some point =>
          rw [fails] at lost sent
          cases point with
          | renewal => cases lost
          | mail => cases sent
          | log => cases lost

/-- An attempt leaves all the links and delivers nothing twice exactly when it is spared. -/
theorem spares_relancer_iff (sound : LinksSound runtime site) (issued : MailsIssued site)
    (once : ∀ inscription kind, site.relancesDeNature inscription kind ≤ 1)
    (fresh : site.Fresh runtime (.relancer now jetons failures)) :
    Spares runtime site (.relancer now jetons failures) ↔ site.Spared runtime now failures := by
  have ready := ready_relancesDuJour sound (freshTokens_of_fresh fresh)
  obtain ⟨couriers, carried, mails⟩ := ready.delivers now failures
  have later : LinksSound runtime (site.step runtime (.relancer now jetons failures)) :=
    sound.step fresh
  have issued' : MailsIssued (site.step runtime (.relancer now jetons failures)) :=
    mailsIssued_envoyerToutes issued
  have mailed := ready.mailed_iff issued now failures
  have usable := usableAt_envoyerToutes runtime now jetons failures
    (site.relancesDuJour runtime now) 0 site now
  have distinct := distinct_relancesDuJour runtime site now
  have append := relancesDeNature_append mails carried
  rw [spared_iff]
  constructor
  · intro spares
    refine ⟨fun entry lost holds => ?_, fun entry sent => ?_⟩
    · have kept := spares.links now jetons failures rfl _ holds
      rcases (mailed _).mp ((holdsLink_iff later issued').mp kept).1 with sent | ⟨_, apart⟩
      · obtain ⟨other, member, same⟩ := sent
        exact interrupted_apart distinct lost member same
      · exact apart entry lost rfl
    · refine ((append entry.1.id entry.2).mp (spares.once _ _)).2.2 (List.countP_pos_iff.mpr
        ⟨entry, sent, ?_⟩)
      simp
  · rintro ⟨mail, log⟩
    refine ⟨fun instant tokens points same key holds => ?_, fun inscription kind => ?_⟩
    · cases same
      obtain ⟨held, works⟩ := (holdsLink_iff sound issued).mp holds
      refine (holdsLink_iff later issued').mpr ⟨(mailed key).mpr (Or.inr ⟨held, ?_⟩),
        (usable key).mpr works⟩
      intro entry lost own
      exact mail entry lost (own ▸ holds)
    · refine (append inscription kind).mpr ⟨once inscription kind, ?_, fun some => ?_⟩
      · refine countP_le_one_iff.mpr ((distinct.sublist
          (delivered_initial failures 0 _).sublist).imp fun apart both => ?_)
        simp only [Bool.and_eq_true, decide_eq_true_eq] at both
        exact apart (both.1.1.trans both.2.1.symm)
      · obtain ⟨entry, listed, counted⟩ := List.countP_pos_iff.mp some
        simp only [Bool.and_eq_true, decide_eq_true_eq] at counted
        obtain ⟨rfl, rfl⟩ := counted
        exact log entry listed

theorem MailsIssued.step (issued : MailsIssued site) :
    MailsIssued (site.step runtime event) := by
  cases other : event.isReminders with
  | false =>
      obtain ⟨extra, mails, invitations, _⟩ := mails_step runtime site other
      intro mail listed
      rw [mails, List.mem_append] at listed
      rcases listed with before | new
      · obtain ⟨issue, present, same⟩ := issued mail before
        exact ⟨issue, keeps_step runtime site event present, same⟩
      · exact (invitations mail new).2
  | true =>
      cases event with
      | relancer now jetons failures => exact mailsIssued_envoyerToutes issued
      | _ => cases other

theorem spares_iff (sound : LinksSound runtime site) (issued : MailsIssued site)
    (once : ∀ inscription kind, site.relancesDeNature inscription kind ≤ 1)
    (fresh : site.Fresh runtime event) :
    Spares runtime site event ↔ site.SparedEvent runtime event := by
  cases other : event.isReminders with
  | false =>
      have unspoilt : site.SparedEvent runtime event := by
        cases event with
        | relancer => cases other
        | _ => trivial
      refine iff_of_true ⟨fun now jetons failures same => ?_, fun inscription kind => ?_⟩ unspoilt
      · rw [same] at other
        cases other
      · rw [relancesDeNature_of_isReminders_eq_false other]
        exact once inscription kind
  | true =>
      cases event with
      | relancer now jetons failures => exact spares_relancer_iff sound issued once fresh
      | _ => cases other

/-- An attempt that is spared leaves every enrolment its mailed link, and so do the other
events but for the renewals. -/
theorem mailed_step (sound : LinksSound runtime site) (issued : MailsIssued site)
    (fresh : site.Fresh runtime event) (spared : site.SparedEvent runtime event)
    (renewal : event.isRenewal = false)
    (mailed : ∀ row ∈ site.inscriptions, site.Mailed runtime row.id) :
    ∀ row ∈ (site.step runtime event).inscriptions,
      (site.step runtime event).Mailed runtime row.id := by
  have quiet {after : TrainingSite} (same : Quiet site after) :
      ∀ row ∈ after.inscriptions, after.Mailed runtime row.id := by
    intro row member
    obtain ⟨source, inside, key, _, hash⟩ := same.links.kept row member
    obtain ⟨other, present, own, mail, listed, about, opens⟩ := mailed source inside
    obtain rfl : other = source := Table.ident_injective present inside own
    exact ⟨row, member, rfl, mail, same.mails ▸ listed, about.trans key, hash ▸ opens⟩
  cases event with
  | inscrire tenant learner course dueDate actor jeton delivered now =>
      rcases step_inscrire runtime site tenant learner course dueDate actor jeton delivered now with
        same | ⟨employee, row, enrols⟩
      · rw [same]
        exact mailed
      · intro other member
        rcases (enrols.mem other).mp member with before | rfl
        · obtain ⟨source, present, own, mail, listed, about, hash⟩ := mailed other before
          refine ⟨source, (enrols.mem source).mpr (Or.inl present), own, mail, ?_, about, hash⟩
          rw [enrols.mails]
          exact List.mem_append_left _ listed
        · refine ⟨other, member, rfl, ⟨site.inscriptions.next, employee, .invitation, jeton, now⟩, ?_,
            enrols.key.symm, enrols.tokenHash⟩
          rw [enrols.mails]
          exact List.mem_append_right _ List.mem_cons_self
  | renouveler => cases renewal
  | relancer now jetons failures =>
      intro row member
      have ready := ready_relancesDuJour sound (freshTokens_of_fresh fresh)
      obtain ⟨source, inside, key⟩ := ids_envoyerToutes member
      refine (ready.mailed_iff issued now failures row.id).mpr
        (Or.inr ⟨key ▸ mailed source inside, fun entry lost own => ?_⟩)
      obtain ⟨present, due⟩ := mem_relancesDuJour.mp (mem_of_interrupted lost)
      have may := (due_of_natureDuJour due).1
      rw [relancable, Bool.and_eq_true, Bool.and_eq_true] at may
      exact (spared_iff.mp spared).1 entry lost ((holdsLink_iff sound issued).mpr
        ⟨mailed entry.1 present, entry.1, present, rfl, may.1.2⟩)
  | _ => exact quiet (quiet_step rfl)

/-- In every run with new tokens, the attempts take no link away and deliver nothing
twice exactly when they are all spared; and then, where the company renews no link
itself, every enrolment whose link works has it in a mail. -/
theorem reminders_spare_iff (runtime : TrainingRuntime) (start : TrainingSite)
    (inscriptions : start.inscriptions.rows = []) (issued : start.issued = [])
    (mails : start.mails = []) (events : List CampaignEvent)
    (fresh : EachStep (step runtime) (Fresh runtime) start events) :
    (EachStep (step runtime) (Spares runtime) start events ↔
      EachStep (step runtime) (SparedEvent runtime) start events) ∧
    (EachStep (step runtime) (SparedEvent runtime) start events →
      (∀ event ∈ events, event.isRenewal = false) →
        Always (step runtime) (LinksHeld runtime) start events) := by
  have none : MailsIssued start := by
    intro mail listed
    rw [mails] at listed
    exact absurd listed List.not_mem_nil
  have invariant : Always (step runtime) (fun site => LinksSound runtime site ∧ MailsIssued site)
      start events :=
    (always_linksSound (.of_empty inscriptions issued) fresh).and
      (always_of_step (fun _ _ before => before.step) none events)
  have initial : ∀ inscription kind, start.relancesDeNature inscription kind ≤ 1 := by
    intro inscription kind
    rw [relancesDeNature, mails]
    exact Nat.zero_le 1
  refine ⟨⟨fun spares => ?_, fun spared => ?_⟩, fun spared own => ?_⟩
  · have once : Always (step runtime)
        (fun site => ∀ inscription kind, site.relancesDeNature inscription kind ≤ 1) start events :=
      always_of_eachStep initial (spares.imp fun _ _ spares _ => spares.once)
    exact (spares.and fresh).imp_of_always (fun site event before now =>
      (spares_iff before.1.1 before.1.2 before.2 now.2).mp now.1) (invariant.and once)
  · have gives : EachStep (step runtime) (fun site event =>
        (∀ inscription kind, site.relancesDeNature inscription kind ≤ 1) →
          Spares runtime site event) start events :=
      (spared.and fresh).imp_of_always (fun site event before now once =>
        (spares_iff before.1 before.2 once now.2).mpr now.1) invariant
    exact gives.imp_of_always (fun _ _ once gives => gives once)
      (always_of_eachStep initial (gives.imp fun _ _ gives once => (gives once).once))
  · have renewals : EachStep (step runtime) (fun _ event => event.isRenewal = false) start events :=
      eachStep_of_forall_mem fun event listed _ => own event listed
    have assumed := (spared.and fresh).and renewals
    have mailed : Always (step runtime)
        (fun site => ∀ row ∈ site.inscriptions, site.Mailed runtime row.id) start events := by
      refine always_of_eachStep (fun row member => ?_) (assumed.imp_of_always
        (fun site event before now => mailed_step before.1 before.2 now.1.2 now.1.1 now.2)
        invariant)
      rw [Table.mem_def, inscriptions] at member
      exact absurd member List.not_mem_nil
    exact (invariant.and mailed).imp fun site both now row member usable =>
      (holdsLink_iff both.1.1 both.1.2).mpr ⟨both.2 row member, row, member, rfl, usable⟩

/-- A renewal that fails, and the attempts after it: one that succeeds, and one whose
last log fails. -/
def retriedRun : List CampaignEvent :=
  [.inscrire 0 0 0 20 none "jeton-a" true (10 * 86400),
    .relancer (16 * 86400) (fun _ => "jeton-b") (fun _ => some .renewal),
    .relancer (16 * 86400 + 600) (fun _ => "jeton-b") (fun _ => none),
    .relancer (23 * 86400) (fun _ => "jeton-c") fun _ => some .log]

theorem reminders_spare_iff_retriedRun :
    EachStep (step companyRuntime) (Spares companyRuntime) companySite retriedRun ∧
      Always (step companyRuntime) (LinksHeld companyRuntime) companySite retriedRun := by
  have both := reminders_spare_iff companyRuntime companySite rfl rfl rfl retriedRun
    ⟨by decide +kernel, by decide +kernel, by decide +kernel, by decide +kernel, trivial⟩
  have spared : EachStep (step companyRuntime) (SparedEvent companyRuntime) companySite
      retriedRun :=
    ⟨trivial, spared_of_unsent (fun _ => nofun) (by decide +kernel),
      spared_of_unsent (fun _ => nofun) (by decide +kernel),
      spared_of_unsent (fun _ => nofun) (by decide +kernel), trivial⟩
  exact ⟨both.1.mpr spared, both.2 spared (by decide)⟩

/-- A mail that fails leaves the employee without a link; a log that fails lets the next
attempt deliver the same reminder again. -/
theorem reminders_not_spared :
    ¬EachStep (step companyRuntime) (Spares companyRuntime) companySite
        [.inscrire 0 0 0 20 none "jeton-a" true (10 * 86400),
          .relancer (16 * 86400) (fun _ => "jeton-b") (fun _ => some .mail)] ∧
      ¬EachStep (step companyRuntime) (Spares companyRuntime) companySite
        [.inscrire 0 0 0 20 none "jeton-a" true (10 * 86400),
          .relancer (16 * 86400) (fun _ => "jeton-b") (fun _ => some .log),
          .relancer (16 * 86400 + 600) (fun _ => "jeton-c") fun _ => none] := by
  constructor
  · rintro ⟨_, spares, _⟩
    have holds : (step companyRuntime companySite
        (.inscrire 0 0 0 20 none "jeton-a" true (10 * 86400))).HoldsLink companyRuntime
        (16 * 86400) 0 := by
      refine ⟨⟨0, 0, .invitation, "jeton-a", 10 * 86400⟩, by decide +kernel, rfl, ?_⟩
      have works : ((step companyRuntime companySite
          (.inscrire 0 0 0 20 none "jeton-a" true (10 * 86400))).resoudreSession companyRuntime
          "jeton-a" (16 * 86400)).toOption.map (fun opened => opened.2.id) = some 0 := by
        decide +kernel
      cases resolved : (step companyRuntime companySite
          (.inscrire 0 0 0 20 none "jeton-a" true (10 * 86400))).resoudreSession companyRuntime
          "jeton-a" (16 * 86400) with
      | error failure =>
          rw [resolved] at works
          cases works
      | ok pair =>
          rw [resolved] at works
          obtain ⟨row, opens, key, _⟩ := exists_opens resolved
          exact ⟨row, opens, key.trans (Option.some.inj works)⟩
    obtain ⟨mail, listed, _, row, ⟨_, opened, found, resolved, _⟩, _⟩ :=
      spares.links _ _ _ rfl 0 holds
    have dead : ∀ mail ∈ (step companyRuntime (step companyRuntime companySite
        (.inscrire 0 0 0 20 none "jeton-a" true (10 * 86400)))
        (.relancer (16 * 86400) (fun _ => "jeton-b") (fun _ => some .mail))).mails,
        ((step companyRuntime (step companyRuntime companySite
          (.inscrire 0 0 0 20 none "jeton-a" true (10 * 86400)))
          (.relancer (16 * 86400) (fun _ => "jeton-b") (fun _ => some .mail))).resoudreSession
          companyRuntime mail.jeton (16 * 86400)).toOption.isNone = true := by decide +kernel
    have refused := dead mail listed
    rw [resolved] at refused
    cases refused
  · rintro ⟨_, _, spares, _⟩
    have two := spares.once 0 .mid
    revert two
    decide +kernel

end Attempts

end TrainingSite

end RssiService.Training
