import RssiService.Training.Campaigns

/-!
# The tokens of the links

An enrolment keeps the hash of the last token issued for it.  A token opens the
enrolment it was last issued for, as long as its link works.
-/

namespace RssiService.Training

open Foundation Foundation.Run Python

namespace TrainingSite

/-- The last token issued for an enrolment. -/
def lastIssued (site : TrainingSite) (inscription : Nat) : Option String :=
  (site.issued.find? fun issue => issue.inscription = inscription).map Issue.jeton

/-- Every enrolment keeps the hash of its last token, and no two tokens have one hash. -/
structure LinksSound (runtime : TrainingRuntime) (site : TrainingSite) : Prop where
  linked : ∀ row ∈ site.inscriptions, ∃ jeton, site.lastIssued row.id = some jeton ∧
    row.tokenHash = runtime.hacher jeton
  known : ∀ issue ∈ site.issued, issue.inscription < site.inscriptions.next
  owned : ∀ issue ∈ site.issued, ∀ row ∈ site.inscriptions, row.id = issue.inscription →
    row.tenant = issue.tenant
  apart : site.issued.Pairwise fun later earlier =>
    runtime.hacher later.jeton ≠ runtime.hacher earlier.jeton
  written : ∀ issue ∈ site.issued, issue.jeton ≠ ""

/-- The token is new, and its hash too. -/
def FreshToken (runtime : TrainingRuntime) (site : TrainingSite) (jeton : String) : Prop :=
  jeton ≠ "" ∧ ∀ issue ∈ site.issued, runtime.hacher jeton ≠ runtime.hacher issue.jeton

/-- The tokens of an event are new. -/
def Fresh (runtime : TrainingRuntime) (site : TrainingSite) : CampaignEvent → Prop
  | .inscrire _ _ _ _ _ jeton _ _ | .renouveler _ _ jeton _ => site.FreshToken runtime jeton
  | .relancer now jetons _ =>
      ∀ rank < (site.relancesDuJour runtime now).length, site.FreshToken runtime (jetons rank) ∧
        ∀ other < rank, runtime.hacher (jetons rank) ≠ runtime.hacher (jetons other)
  | _ => True

instance (runtime : TrainingRuntime) (site : TrainingSite) (jeton : String) :
    Decidable (site.FreshToken runtime jeton) :=
  inferInstanceAs (Decidable (_ ∧ _))

instance (runtime : TrainingRuntime) (site : TrainingSite) (event : CampaignEvent) :
    Decidable (site.Fresh runtime event) :=
  match event with
  | .inscrire _ _ _ _ _ jeton _ _ | .renouveler _ _ jeton _ =>
      inferInstanceAs (Decidable (site.FreshToken runtime jeton))
  | .relancer now jetons _ =>
      inferInstanceAs (Decidable (∀ rank < (site.relancesDuJour runtime now).length,
        site.FreshToken runtime (jetons rank) ∧
          ∀ other < rank, runtime.hacher (jetons rank) ≠ runtime.hacher (jetons other)))
  | .revoquer .. | .activer .. | .regler .. | .ouvrir .. | .suivre .. | .cataloguer .. =>
      inferInstanceAs (Decidable True)

section Soundness

variable {runtime : TrainingRuntime} {site after : TrainingSite} {inscription : Inscription}
  {jeton : String} {now : Nat}

theorem lastIssued_of_issued (same : after.issued = site.issued) (key : Nat) :
    after.lastIssued key = site.lastIssued key := by
  rw [lastIssued, same, lastIssued]

theorem lastIssued_cons {issue : Issue} (issued : after.issued = issue :: site.issued)
    (key : Nat) :
    after.lastIssued key =
      if issue.inscription = key then some issue.jeton else site.lastIssued key := by
  rw [lastIssued, issued, List.find?_cons]
  by_cases own : issue.inscription = key
  · rw [if_pos own, decide_eq_true own]
    rfl
  · rw [if_neg own, decide_eq_false own]
    rfl

theorem LinksSound.of_same (sound : LinksSound runtime site) (same : SameLinks site after) :
    LinksSound runtime after where
  linked row member := by
    obtain ⟨source, inside, key, _, hash⟩ := same.kept row member
    obtain ⟨jeton, last, hashed⟩ := sound.linked source inside
    exact ⟨jeton, by rw [lastIssued_of_issued same.issued, ← key, last], hash ▸ hashed⟩
  known issue member := by
    rw [same.issued] at member
    rw [same.next]
    exact sound.known issue member
  owned issue member row inside own := by
    rw [same.issued] at member
    obtain ⟨source, listed, key, tenant, _⟩ := same.kept row inside
    rw [← tenant]
    exact sound.owned issue member source listed (key.trans own)
  apart := by
    rw [same.issued]
    exact sound.apart
  written issue member := by
    rw [same.issued] at member
    exact sound.written issue member

/-- The issued tokens are apart with a new one. -/
theorem LinksSound.apart_cons (sound : LinksSound runtime site)
    (fresh : site.FreshToken runtime jeton) (key tenant : Nat) :
    (⟨key, tenant, jeton⟩ :: site.issued : List Issue).Pairwise fun later earlier =>
      runtime.hacher later.jeton ≠ runtime.hacher earlier.jeton :=
  List.pairwise_cons.mpr ⟨fresh.2, sound.apart⟩

/-- A renewal keeps the rows, and gives one of them the hash of the new token. -/
theorem source_of_renewed (renewed : site.renouvelerLeLien runtime inscription jeton now = .ok after)
    {row : Inscription} (member : row ∈ after.inscriptions) :
    ∃ source ∈ site.inscriptions, source.id = row.id ∧ source.tenant = row.tenant ∧
      row.tokenHash =
        if inscription.id = row.id then runtime.hacher jeton else source.tokenHash := by
  obtain ⟨source, listed, rfl⟩ := (mem_renewed renewed).mp member
  refine ⟨source, listed, ?_⟩
  by_cases here : source.id = inscription.id
  · rw [if_pos (show ident source = inscription.id from here)]
    exact ⟨rfl, rfl, (if_pos here.symm).symm⟩
  · rw [if_neg (show ¬ident source = inscription.id from here)]
    exact ⟨rfl, rfl, (if_neg fun same => here same.symm).symm⟩

theorem LinksSound.renouveler (sound : LinksSound runtime site)
    (fresh : site.FreshToken runtime jeton)
    (own : ∀ row ∈ site.inscriptions, row.id = inscription.id → row.tenant = inscription.tenant)
    (renewed : site.renouvelerLeLien runtime inscription jeton now = .ok after) :
    LinksSound runtime after := by
  have kept := fun row (member : row ∈ after.inscriptions) => source_of_renewed renewed member
  obtain ⟨_, _, ⟨present, inside, key⟩, rfl⟩ := renouvelerLeLien_ok renewed
  refine ⟨fun row member => ?_, fun issue member => ?_, fun issue member row listed same => ?_,
    sound.apart_cons fresh _ _, fun issue member => ?_⟩
  · obtain ⟨source, listed, same, _, hash⟩ := kept row member
    rw [lastIssued_cons rfl]
    by_cases here : inscription.id = row.id
    · rw [if_pos here] at hash ⊢
      exact ⟨jeton, rfl, hash⟩
    · rw [if_neg here] at hash ⊢
      obtain ⟨former, last, hashed⟩ := sound.linked source listed
      exact ⟨former, same ▸ last, hash.trans hashed⟩
  · rcases List.mem_cons.mp member with rfl | old
    · have bound := site.inscriptions.allocated present inside
      exact key ▸ bound
    · exact sound.known issue old
  · obtain ⟨source, inside', key', tenant, _⟩ := kept row listed
    rw [← tenant]
    rcases List.mem_cons.mp member with rfl | old
    · exact own source inside' (key'.trans same)
    · exact sound.owned issue old source inside' (key'.trans same)
  · rcases List.mem_cons.mp member with rfl | old
    · exact fresh.1
    · exact sound.written issue old

theorem LinksSound.inscrire {tenant learner : Nat} {row : Inscription}
    (sound : LinksSound runtime site) (fresh : site.FreshToken runtime jeton)
    (enrols : Enrols runtime site tenant learner jeton now after row) :
    LinksSound runtime after := by
  have below : ∀ issue ∈ site.issued, issue.inscription ≠ site.inscriptions.next :=
    fun issue member => (sound.known issue member).ne
  refine ⟨fun other member => ?_, fun issue member => ?_, fun issue member other listed same => ?_,
    ?_, fun issue member => ?_⟩
  · rw [lastIssued_cons enrols.issued]
    rcases (enrols.mem other).mp member with old | rfl
    · have apart : ¬site.inscriptions.next = other.id := fun same => Table.ne_next old same.symm
      rw [if_neg apart]
      exact sound.linked other old
    · rw [if_pos enrols.key.symm]
      exact ⟨jeton, rfl, enrols.tokenHash⟩
  · rw [enrols.next]
    rw [enrols.issued] at member
    rcases List.mem_cons.mp member with rfl | old
    · exact Nat.lt_succ_self _
    · exact (sound.known issue old).trans (Nat.lt_succ_self _)
  · rw [enrols.issued] at member
    rcases List.mem_cons.mp member with rfl | old
    · rcases (enrols.mem other).mp listed with before | rfl
      · exact absurd same (Table.ne_next before)
      · exact enrols.company
    · rcases (enrols.mem other).mp listed with before | rfl
      · exact sound.owned issue old other before same
      · exact absurd (enrols.key.symm.trans same).symm (below issue old)
  · rw [enrols.issued]
    exact sound.apart_cons fresh _ _
  · rw [enrols.issued] at member
    rcases List.mem_cons.mp member with rfl | old
    · exact fresh.1
    · exact sound.written issue old

/-! ## One run of the reminders -/

/-- What one reminder issues: at most the token of its rank. -/
theorem LinksSound.envoyerUneRelance (sound : LinksSound runtime site) (now : Nat)
    (failure : Option FailurePoint) (kind : ReminderLog.Kind)
    (fresh : site.FreshToken runtime jeton)
    (own : ∀ row ∈ site.inscriptions, row.id = inscription.id → row.tenant = inscription.tenant) :
    let sent := (site.envoyerUneRelance runtime now jeton failure inscription kind).1
    LinksSound runtime sent ∧
      (∀ issue ∈ sent.issued, issue ∈ site.issued ∨ issue.jeton = jeton) ∧
      ∀ row ∈ sent.inscriptions, ∃ source ∈ site.inscriptions,
        source.id = row.id ∧ source.tenant = row.tenant := by
  have sends := sends_envoyerUneRelance runtime site now jeton failure inscription kind
  have frame {renewed : TrainingSite}
      (links : site.renouvelerLeLien runtime inscription jeton now = .ok renewed) :
      LinksSound runtime renewed ∧
        (∀ issue ∈ renewed.issued, issue ∈ site.issued ∨ issue.jeton = jeton) ∧
        ∀ row ∈ renewed.inscriptions, ∃ source ∈ site.inscriptions,
          source.id = row.id ∧ source.tenant = row.tenant := by
    refine ⟨sound.renouveler fresh own links, fun issue member => ?_,
      fun row => exists_of_mem_renewed links⟩
    obtain ⟨_, _, _, rfl⟩ := renouvelerLeLien_ok links
    rcases List.mem_cons.mp member with rfl | old
    · exact Or.inr rfl
    · exact Or.inl old
  generalize site.envoyerUneRelance runtime now jeton failure inscription kind = outcome at sends ⊢
  cases sends with
  | nothing => exact ⟨sound, fun _ => Or.inl, fun row member => ⟨row, member, rfl, rfl⟩⟩
  | link links fails => exact frame links
  | mail links fails =>
      obtain ⟨later, issued, kept⟩ := frame links
      exact ⟨later.of_same (.of_inscriptions rfl rfl), issued, kept⟩
  | log links succeeds new =>
      obtain ⟨later, issued, kept⟩ := frame links
      exact ⟨later.of_same (.of_inscriptions rfl rfl), issued, kept⟩

/-- The tokens of the reminders from a rank are new, and each has a hash of its own. -/
structure FreshTokens (runtime : TrainingRuntime) (site : TrainingSite) (jetons : Nat → String)
    (rank count : Nat) : Prop where
  fresh : ∀ later < count, site.FreshToken runtime (jetons (rank + later))
  apart : ∀ later < count, ∀ other < later,
    runtime.hacher (jetons (rank + later)) ≠ runtime.hacher (jetons (rank + other))

theorem FreshTokens.tail {jetons : Nat → String} {rank count : Nat}
    (tokens : FreshTokens runtime site jetons rank (count + 1))
    (issued : ∀ issue ∈ after.issued, issue ∈ site.issued ∨ issue.jeton = jetons rank) :
    FreshTokens runtime after jetons (rank + 1) count := by
  refine ⟨fun next bound => ?_, fun next bound other lower => ?_⟩
  · rw [Nat.add_right_comm, Nat.add_assoc]
    have new := tokens.fresh (next + 1) (Nat.succ_lt_succ bound)
    refine ⟨new.1, fun issue member => ?_⟩
    rcases issued issue member with old | here
    · exact new.2 issue old
    · rw [here]
      exact tokens.apart (next + 1) (Nat.succ_lt_succ bound) 0 (Nat.zero_lt_succ _)
  · rw [Nat.add_right_comm, Nat.add_assoc, Nat.add_right_comm rank 1, Nat.add_assoc rank]
    exact tokens.apart (next + 1) (Nat.succ_lt_succ bound) (other + 1) (Nat.succ_lt_succ lower)

theorem LinksSound.envoyerToutes {jetons : Nat → String} {failures : Nat → Option FailurePoint}
    {reminders : List (Inscription × ReminderLog.Kind)} {rank : Nat}
    (sound : LinksSound runtime site)
    (tokens : FreshTokens runtime site jetons rank reminders.length)
    (own : ∀ entry ∈ reminders, ∀ row ∈ site.inscriptions, row.id = entry.1.id →
      row.tenant = entry.1.tenant) :
    LinksSound runtime (envoyerToutes runtime now jetons failures rank reminders site) := by
  induction reminders generalizing rank site with
  | nil => exact sound
  | cons entry rest ih =>
      obtain ⟨inscription, kind⟩ := entry
      rw [List.forall_mem_cons] at own
      obtain ⟨later, issued, kept⟩ := sound.envoyerUneRelance now (failures rank) kind
        (tokens.fresh 0 (Nat.zero_lt_succ _)) own.1
      rw [TrainingSite.envoyerToutes]
      generalize site.envoyerUneRelance runtime now (jetons rank) (failures rank) inscription kind =
        outcome at later issued kept ⊢
      obtain ⟨sent, goes⟩ := outcome
      cases goes with
      | false => exact later
      | true =>
          refine ih later (tokens.tail issued) fun entry listed row member same => ?_
          obtain ⟨source, inside, key, tenant⟩ := kept row member
          exact tenant ▸ own.2 entry listed source inside (key.trans same)

theorem own_of_mem {row : Inscription} (member : row ∈ site.inscriptions) :
    ∀ other ∈ site.inscriptions, other.id = row.id → other.tenant = row.tenant :=
  fun _ listed same => congrArg Inscription.tenant (Table.ident_injective listed member same)

theorem freshTokens_of_fresh {jetons : Nat → String} {count : Nat}
    (fresh : ∀ rank < count, site.FreshToken runtime (jetons rank) ∧
      ∀ other < rank, runtime.hacher (jetons rank) ≠ runtime.hacher (jetons other)) :
    FreshTokens runtime site jetons 0 count := by
  refine ⟨fun later bound => ?_, fun later bound other lower => ?_⟩
  · rw [Nat.zero_add]
    exact (fresh later bound).1
  · rw [Nat.zero_add, Nat.zero_add]
    exact (fresh later bound).2 other lower

theorem LinksSound.step {event : CampaignEvent} (sound : LinksSound runtime site)
    (fresh : site.Fresh runtime event) : LinksSound runtime (site.step runtime event) := by
  cases event with
  | inscrire tenant learner course dueDate actor jeton mailed now =>
      rcases step_inscrire runtime site tenant learner course dueDate actor jeton mailed now with
        same | ⟨employee, row, enrols⟩
      · rw [same]
        exact sound
      · exact sound.inscrire fresh enrols
  | renouveler tenant inscription jeton now =>
      rcases step_renouveler runtime site tenant inscription jeton now with
        same | ⟨row, member, renewed⟩
      · rw [same]
        exact sound
      · exact sound.renouveler fresh (own_of_mem member) renewed
  | relancer now jetons failures =>
      exact sound.envoyerToutes (freshTokens_of_fresh fresh) fun entry listed =>
        own_of_mem (mem_relancesDuJour.mp listed).1
  | _ => exact sound.of_same (quiet_step rfl).links

/-- Nothing was ever issued before the first enrolment. -/
theorem LinksSound.of_empty (inscriptions : site.inscriptions.rows = [])
    (issued : site.issued = []) : LinksSound runtime site where
  linked row member := absurd member (by rw [Table.mem_def, inscriptions]; exact List.not_mem_nil)
  known issue member := absurd member (by rw [issued]; exact List.not_mem_nil)
  owned issue member := absurd member (by rw [issued]; exact List.not_mem_nil)
  apart := by
    rw [issued]
    exact List.Pairwise.nil
  written issue member := absurd member (by rw [issued]; exact List.not_mem_nil)

end Soundness

/-! ## What a token opens -/

/-- No token that was issued has the hash of this one, unless it is this one. -/
def Collisionless (runtime : TrainingRuntime) (site : TrainingSite) (jeton : String) : Prop :=
  ∀ issue ∈ site.issued, runtime.hacher issue.jeton = runtime.hacher jeton → issue.jeton = jeton

/-- The token opens this enrolment at this instant. -/
def Opens (runtime : TrainingRuntime) (site : TrainingSite) (jeton : String) (now : Nat)
    (inscription : Inscription) : Prop :=
  inscription ∈ site.inscriptions ∧
    ∃ opened found, site.resoudreSession runtime jeton now = .ok (opened, found) ∧
      found.id = inscription.id

/-- The token is the last one of an enrolment that is neither revoked nor past its
margin, and whose employee is active. -/
structure Current (runtime : TrainingRuntime) (site : TrainingSite) (jeton : String) (now : Nat)
    (inscription : Inscription) : Prop where
  present : inscription ∈ site.inscriptions
  last : site.lastIssued inscription.id = some jeton
  live : inscription.revokedAt = none
  dated : now ≤ inscription.expiresAt runtime
  active : site.learnerActive inscription.learner = true

section Resolution

variable {runtime : TrainingRuntime} {site later : TrainingSite} {jeton : String} {now : Nat}
  {first second : Inscription}

theorem isUsable_iff : site.isUsable runtime now first = true ↔
    first.revokedAt = none ∧ now ≤ first.expiresAt runtime ∧
      site.learnerActive first.learner = true := by
  rw [isUsable, Bool.and_eq_true, Bool.and_eq_true, and_assoc]
  refine and_congr ?_ (and_congr_left' ?_)
  · rw [Inscription.isRevoked, Bool.not_eq_true', Option.isSome_eq_false_iff,
      Option.isNone_iff_eq_none]
  · rw [Inscription.isExpired, Bool.not_eq_true', decide_eq_false_iff_not, Nat.not_lt]

theorem mem_issued_of_lastIssued {key : Nat} (last : site.lastIssued key = some jeton) :
    ∃ issue ∈ site.issued, issue.inscription = key ∧ issue.jeton = jeton := by
  obtain ⟨issue, found, same⟩ := Option.map_eq_some_iff.mp last
  exact ⟨issue, List.mem_of_find?_eq_some found, by simpa using List.find?_some found, same⟩

theorem LinksSound.issue_injective (sound : LinksSound runtime site) {issue other : Issue}
    (inside : issue ∈ site.issued) (present : other ∈ site.issued)
    (same : runtime.hacher issue.jeton = runtime.hacher other.jeton) : issue = other := by
  have nodup : (site.issued.map fun issue => runtime.hacher issue.jeton).Nodup :=
    List.pairwise_map.mpr sound.apart
  exact List.inj_on_of_nodup_map nodup inside present same

/-- Two enrolments never have one hash. -/
theorem LinksSound.tokenHash_injective (sound : LinksSound runtime site)
    (inside : first ∈ site.inscriptions) (present : second ∈ site.inscriptions)
    (same : first.tokenHash = second.tokenHash) : first = second := by
  obtain ⟨former, last, hash⟩ := sound.linked first inside
  obtain ⟨latter, last', hash'⟩ := sound.linked second present
  obtain ⟨issue, issued, key, rfl⟩ := mem_issued_of_lastIssued last
  obtain ⟨other, issued', key', rfl⟩ := mem_issued_of_lastIssued last'
  have one := sound.issue_injective issued issued' (hash.symm.trans (same.trans hash'))
  exact Table.ident_injective inside present
    (key.symm.trans ((congrArg Issue.inscription one).trans key'))

theorem resoudreSession_ok {opened : TrainingSite} {found : Inscription}
    (resolved : site.resoudreSession runtime jeton now = .ok (opened, found)) :
    ∃ row, site.designated runtime jeton = some row ∧ row.id = found.id ∧
      row.tenant = found.tenant ∧ site.isUsable runtime now row = true := by
  rw [resoudreSession] at resolved
  split at resolved
  · cases resolved
  · split at resolved
    · cases resolved
    · rename_i row designates
      split at resolved
      · rename_i usable
        cases resolved
        exact ⟨row, designates, rfl, rfl, usable⟩
      · cases resolved

theorem mem_of_designated (found : site.designated runtime jeton = some first) :
    first ∈ site.inscriptions ∧ first.tokenHash = runtime.hacher jeton :=
  ⟨List.mem_of_find?_eq_some found, by simpa using List.find?_some found⟩

/-- What is resolved is an enrolment that the token opens. -/
theorem exists_opens {opened : TrainingSite} {found : Inscription}
    (resolved : site.resoudreSession runtime jeton now = .ok (opened, found)) :
    ∃ row, site.Opens runtime jeton now row ∧ row.id = found.id ∧ row.tenant = found.tenant := by
  obtain ⟨row, designates, key, tenant, _⟩ := resoudreSession_ok resolved
  exact ⟨row, ⟨(mem_of_designated designates).1, opened, found, resolved, key.symm⟩, key, tenant⟩

/-- A token opens the enrolment that keeps its hash, when its link works. -/
theorem LinksSound.opens_iff_tokenHash (sound : LinksSound runtime site) :
    site.Opens runtime jeton now first ↔
      first ∈ site.inscriptions ∧ jeton ≠ "" ∧ first.tokenHash = runtime.hacher jeton ∧
        site.isUsable runtime now first = true := by
  constructor
  · rintro ⟨inside, opened, found, resolved, same⟩
    obtain ⟨row, designates, key, _, usable⟩ := resoudreSession_ok resolved
    obtain ⟨listed, hash⟩ := mem_of_designated designates
    obtain rfl : row = first := Table.ident_injective listed inside (key.trans same)
    refine ⟨inside, fun empty => ?_, hash, usable⟩
    rw [resoudreSession, if_pos empty] at resolved
    cases resolved
  · rintro ⟨inside, written, hashed, usable⟩
    obtain ⟨row, designates⟩ : ∃ row, site.designated runtime jeton = some row :=
      Option.isSome_iff_exists.mp (List.find?_isSome.mpr ⟨first, inside, decide_eq_true hashed⟩)
    obtain ⟨listed, hash⟩ := mem_of_designated designates
    obtain rfl : row = first :=
      sound.tokenHash_injective listed inside (hash.trans hashed.symm)
    refine ⟨inside, ?_⟩
    rw [resoudreSession, if_neg written, designates]
    dsimp only
    rw [if_pos usable]
    exact ⟨_, _, rfl, rfl⟩

theorem LinksSound.opens_iff (sound : LinksSound runtime site)
    (collisionless : site.Collisionless runtime jeton) :
    site.Opens runtime jeton now first ↔ site.Current runtime jeton now first := by
  rw [sound.opens_iff_tokenHash]
  constructor
  · rintro ⟨inside, _, hash, usable⟩
    obtain ⟨live, dated, active⟩ := isUsable_iff.mp usable
    obtain ⟨former, last, hashed⟩ := sound.linked first inside
    obtain ⟨issue, issued, _, rfl⟩ := mem_issued_of_lastIssued last
    have own := collisionless issue issued (hashed.symm.trans hash)
    exact ⟨inside, own ▸ last, live, dated, active⟩
  · rintro ⟨inside, last, live, dated, active⟩
    obtain ⟨former, last', hashed⟩ := sound.linked first inside
    obtain rfl : former = jeton := Option.some.inj (last'.symm.trans last)
    obtain ⟨issue, issued, _, rfl⟩ := mem_issued_of_lastIssued last
    exact ⟨inside, sound.written issue issued, hashed, isUsable_iff.mpr ⟨live, dated, active⟩⟩

/-- What a token opens is what it was issued for. -/
theorem LinksSound.issue_of_opens (sound : LinksSound runtime site)
    (collisionless : site.Collisionless runtime jeton)
    (opens : site.Opens runtime jeton now first) :
    (⟨first.id, first.tenant, jeton⟩ : Issue) ∈ site.issued := by
  have current := (sound.opens_iff collisionless).mp opens
  obtain ⟨issue, issued, key, rfl⟩ := mem_issued_of_lastIssued current.last
  rw [← key, sound.owned issue issued first current.present key.symm]
  exact issued

/-! ## Tokens stay issued -/

/-- The tokens issued before are still among the issued ones. -/
def Keeps (earlier later : TrainingSite) : Prop := earlier.issued ⊆ later.issued

theorem SameLinks.keeps (same : SameLinks site later) : Keeps site later := by
  rw [Keeps, same.issued]
  exact List.Subset.refl _

theorem keeps_renouvelerLeLien {inscription : Inscription}
    (renewed : site.renouvelerLeLien runtime inscription jeton now = .ok later) :
    Keeps site later := by
  obtain ⟨_, _, _, rfl⟩ := renouvelerLeLien_ok renewed
  exact List.subset_cons_self _ _

theorem keeps_step (runtime : TrainingRuntime) (site : TrainingSite) (event : CampaignEvent) :
    Keeps site (site.step runtime event) := by
  have refl : Keeps site site := List.Subset.refl _
  cases event with
  | inscrire tenant learner course dueDate actor jeton mailed now =>
      rcases step_inscrire runtime site tenant learner course dueDate actor jeton mailed now with
        same | ⟨employee, row, enrols⟩
      · rw [same]
        exact refl
      · rw [Keeps, enrols.issued]
        exact List.subset_cons_self _ _
  | renouveler tenant inscription jeton now =>
      rcases step_renouveler runtime site tenant inscription jeton now with
        same | ⟨row, member, renewed⟩
      · rw [same]
        exact refl
      · exact keeps_renouvelerLeLien renewed
  | relancer now jetons failures =>
      exact envoyerToutes_invariant (P := Keeps site)
        (fun links kept => List.Subset.trans kept (keeps_renouvelerLeLien links))
        (fun _ links kept => by
          have later := keeps_renouvelerLeLien links
          exact List.Subset.trans kept later)
        (fun _ _ kept => kept) refl
  | _ => exact (quiet_step rfl).links.keeps

theorem related_keeps (runtime : TrainingRuntime) (start : TrainingSite)
    (events : List CampaignEvent) : Related (step runtime) Keeps start events :=
  (related_iff_eachStep (R := Keeps) (fun _ => List.Subset.refl _)
    fun _ _ _ => List.Subset.trans).mpr
    (eachStep_of_forall (keeps_step runtime) start events)

theorem always_linksSound {runtime : TrainingRuntime} {start : TrainingSite}
    {events : List CampaignEvent} (sound : LinksSound runtime start)
    (fresh : EachStep (step runtime) (Fresh runtime) start events) :
    Always (step runtime) (LinksSound runtime) start events :=
  always_of_eachStep sound (fresh.imp fun _ _ new before => before.step new)

/-- What a token opens in a state, and that whatever is opened is an enrolment. -/
def TokensExact (runtime : TrainingRuntime) (site : TrainingSite) : Prop :=
  ∀ jeton now, site.Collisionless runtime jeton →
    (∀ inscription, site.Opens runtime jeton now inscription ↔
      site.Current runtime jeton now inscription) ∧
    ∀ opened found, site.resoudreSession runtime jeton now = .ok (opened, found) →
      ∃ inscription, site.Opens runtime jeton now inscription ∧
        inscription.id = found.id ∧ inscription.tenant = found.tenant

/-- A token never opens two enrolments, be it at two moments, nor those of two companies. -/
def OneOwner (runtime : TrainingRuntime) (earlier later : TrainingSite) : Prop :=
  ∀ jeton, later.Collisionless runtime jeton → ∀ before now first second,
    earlier.Opens runtime jeton before first → later.Opens runtime jeton now second →
      second.id = first.id ∧ second.tenant = first.tenant

theorem LinksSound.tokensExact {runtime : TrainingRuntime} {site : TrainingSite}
    (sound : LinksSound runtime site) : site.TokensExact runtime := by
  intro jeton now collisionless
  exact ⟨fun inscription => sound.opens_iff collisionless, fun opened found => exists_opens⟩

theorem Keeps.oneOwner {runtime : TrainingRuntime} {earlier later : TrainingSite}
    (keeps : Keeps earlier later) (former : LinksSound runtime earlier)
    (latter : LinksSound runtime later) : OneOwner runtime earlier later := by
  intro jeton collisionless before now first second opens opens'
  have issued := keeps (former.issue_of_opens
    (fun issue member => collisionless issue (keeps member)) opens)
  have one := latter.issue_injective (latter.issue_of_opens collisionless opens') issued rfl
  exact ⟨congrArg Issue.inscription one, congrArg Issue.tenant one⟩

/-- In every state of a run from a site without enrolments, a token opens an enrolment
exactly when it is the last one issued for it and the link works; and over the whole run
it opens no other enrolment, of this company or of another one. -/
theorem session_token_resolves (runtime : TrainingRuntime) (start : TrainingSite)
    (inscriptions : start.inscriptions.rows = []) (issued : start.issued = [])
    (events : List CampaignEvent)
    (fresh : EachStep (step runtime) (Fresh runtime) start events) :
    Always (step runtime) (TokensExact runtime) start events ∧
      Related (step runtime) (OneOwner runtime) start events := by
  have sound := always_linksSound (.of_empty inscriptions issued) fresh
  exact ⟨sound.imp fun _ => LinksSound.tokensExact,
    (related_keeps runtime start events).imp_of_always
      (fun _ _ former latter keeps => keeps.oneOwner former latter) sound⟩

/-- An employee is enrolled, reminded, deactivated and reactivated, then revoked. -/
def linkRun : List CampaignEvent :=
  [.inscrire 0 0 0 20 none "jeton-a" true (10 * 86400),
    .relancer (16 * 86400) (fun _ => "jeton-b") fun _ => none,
    .activer 0 false,
    .activer 0 true,
    .renouveler 0 0 "jeton-c" (17 * 86400),
    .revoquer 0 0 none (18 * 86400)]

theorem session_token_resolves_run :
    Always (step companyRuntime) (TokensExact companyRuntime) companySite linkRun ∧
      Related (step companyRuntime) (OneOwner companyRuntime) companySite linkRun :=
  session_token_resolves companyRuntime companySite rfl rfl linkRun
    ⟨by decide +kernel, by decide +kernel, trivial, trivial, by decide +kernel, trivial, trivial⟩

end Resolution

end TrainingSite

end RssiService.Training
