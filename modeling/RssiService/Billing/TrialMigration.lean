import Mathlib.Algebra.Order.BigOperators.Group.List
import RssiService.Billing.Commitment
import RssiService.Python.Json

/-!
# The migration of the trials

The running trials are moved to the plan made for trials.  A move keeps the overrides, and
is refused where that plan asks for more slots than the plan that is left.
-/

namespace RssiService.Billing

open Foundation Python

/-! ## One pass -/

/-- A trial that was moved. -/
structure Bascule where
  tenant : String
  offreAvant : String
  offreApres : String
  emplacementsAvant : Nat
  emplacementsApres : Nat
  deriving DecidableEq, Repr

structure RapportBascule where
  basculees : List Bascule
  ignorees : List String
  refusees : List String
  empechement : String
  deriving DecidableEq, Repr

def RapportBascule.vide : RapportBascule := ⟨[], [], [], ""⟩

def raison : String := "Bascule vers l'offre d'essai dédiée (ADR-024)."

/-- Why a move would commit more slots; empty where it would not. -/
def refusDeCapacite (source essai : Plan) : String :=
  if source.monitoredAssets < essai.monitoredAssets then
    s!"{source.code} -> {essai.code} augmenterait l'engagement " ++
      s!"({source.monitoredAssets} -> {essai.monitoredAssets} " ++
      "emplacements). Bascule refusée : l'offre d'essai ne doit pas coûter plus " ++
      "cher en ressource rare que l'offre quittée."
  else ""

/-- The plan that the code names. -/
def Store.offreEssai (store : Store) (codeEssai : String) : Option Plan :=
  store.plans.rows.find? fun plan => plan.code = codeEssai

def Subscription.withPlan (plan : Nat) (row : Subscription) : Subscription := { row with plan }

theorem ident_withPlan (plan : Nat) (row : Subscription) :
    ident (row.withPlan plan) = ident row := rfl

/-- The trials on another plan, the newest first, each with its plan. -/
def Store.candidats (store : Store) (essai : Plan) : List (Subscription × Plan) :=
  (store.subscriptions.rows.reverse.filter fun row =>
    row.status = .trial && row.plan ≠ essai.id).filterMap fun row =>
      (store.plans.find? row.plan).map fun source => (row, source)

def Store.deplacer (store : Store) (essai : Plan) (candidat : Subscription × Plan) : Store :=
  (store.saveSubscription candidat.1.id (Subscription.withPlan essai.id)
      (ident_withPlan essai.id)).recordEvent
    candidat.1.id (some candidat.1.status) candidat.1.status candidat.2.name essai.name raison none

/-- One turn of the loop. -/
def basculer (tenantName : Nat → String) (unicode : Unicode) (essai : Plan)
    (state : Store × RapportBascule) (candidat : Subscription × Plan) : Store × RapportBascule :=
  let (store, rapport) := state
  let (abonnement, source) := candidat
  if source.status = .internal then
    (store, { rapport with
      ignorees := rapport.ignorees ++
        [s!"{tenantName abonnement.tenant} : offre interne {Json.reprText unicode source.code}, " ++
          "attribuée délibérément"] })
  else if refusDeCapacite source essai ≠ "" then
    (store, { rapport with
      refusees := rapport.refusees ++
        [s!"{tenantName abonnement.tenant} : {refusDeCapacite source essai}"] })
  else
    (store.deplacer essai candidat, { rapport with
      basculees := rapport.basculees ++
        [⟨tenantName abonnement.tenant, source.code, essai.code, source.monitoredAssets,
          essai.monitoredAssets⟩] })

/-- Move the trials that are not on the plan of the code yet. -/
def Store.basculerEssais (tenantName : Nat → String) (unicode : Unicode) (store : Store)
    (codeEssai : String) : Store × RapportBascule :=
  match store.offreEssai codeEssai with
  | none =>
      (store, { RapportBascule.vide with
        empechement := s!"aucune offre de code {Json.reprText unicode codeEssai}. " ++
          "Les essais en cours restent sur leur offre actuelle." })
  | some essai => (store.candidats essai).foldl (basculer tenantName unicode essai)
      (store, .vide)

/-! ## What a pass writes -/

/-- The plan of an operator's decision is left alone, and so is a plan with fewer slots. -/
def movable (essai source : Plan) : Bool :=
  source.status ≠ .internal && essai.monitoredAssets ≤ source.monitoredAssets

/-- The subscriptions that a pass moves. -/
def Store.moves (store : Store) (essai : Plan) (row : Subscription) : Bool :=
  row.status = .trial && row.plan ≠ essai.id && (store.plans.find? row.plan).any (movable essai)

/-- The trials that a pass moves, with their plans. -/
def Store.deplaces (store : Store) (essai : Plan) : List (Subscription × Plan) :=
  (store.candidats essai).filter fun candidat => movable essai candidat.2

/-- The event of a move. -/
def evenement (essai : Plan) (candidat : Subscription × Plan) : SubscriptionEvent where
  subscription := candidat.1.id
  fromStatus := some candidat.1.status
  toStatus := candidat.1.status
  fromPlan := candidat.2.name
  toPlan := essai.name
  reason := String.ofList (raison.toList.take 255)
  actor := none

section Pass

variable {tenantName : Nat → String} {unicode : Unicode} {store : Store} {essai source : Plan}
  {codeEssai : String} {row : Subscription}

theorem refusDeCapacite_eq_empty_iff :
    refusDeCapacite source essai = "" ↔ essai.monitoredAssets ≤ source.monitoredAssets := by
  rw [refusDeCapacite]
  split
  · refine iff_of_false (fun same => ?_) (by omega)
    have length := congrArg String.length same
    rw [String.length_append] at length
    have last : 0 < "cher en ressource rare que l'offre quittée.".length := by decide
    rw [String.length_empty] at length
    omega
  · exact iff_of_true rfl (by omega)

theorem basculer_fst (state : Store × RapportBascule) (candidat : Subscription × Plan) :
    (basculer tenantName unicode essai state candidat).1 =
      if movable essai candidat.2 then state.1.deplacer essai candidat else state.1 := by
  rw [basculer]
  by_cases interne : candidat.2.status = .internal
  · simp [interne, movable]
  · by_cases refuse : refusDeCapacite candidat.2 essai = ""
    · have fits := refusDeCapacite_eq_empty_iff.mp refuse
      simp [interne, refuse, movable, fits]
    · have tight : ¬essai.monitoredAssets ≤ candidat.2.monitoredAssets :=
        fun fits => refuse (refusDeCapacite_eq_empty_iff.mpr fits)
      simp [interne, refuse, movable, tight]

theorem foldl_basculer_fst (candidats : List (Subscription × Plan))
    (state : Store × RapportBascule) :
    (candidats.foldl (basculer tenantName unicode essai) state).1 =
      (candidats.filter fun candidat => movable essai candidat.2).foldl
        (fun store candidat => store.deplacer essai candidat) state.1 := by
  induction candidats generalizing state with
  | nil => rfl
  | cons candidat rest ih =>
      rw [List.foldl_cons, ih, basculer_fst]
      cases moved : movable essai candidat.2 with
      | true => simp only [List.filter_cons, moved, if_true, List.foldl_cons]
      | false => simp only [List.filter_cons, moved, Bool.false_eq_true, if_false]

/-- The moves of a list of trials, as one write. -/
theorem foldl_deplacer (moved : List (Subscription × Plan)) :
    moved.foldl (fun store candidat => store.deplacer essai candidat) store =
      { plans := store.plans
        subscriptions := (moved.map fun candidat => candidat.1.id).foldl
          (fun table key => table.modify key (Subscription.withPlan essai.id)
            (ident_withPlan essai.id))
          store.subscriptions
        events := store.events ++ moved.map (evenement essai) } := by
  induction moved generalizing store with
  | nil => simp
  | cons candidat rest ih =>
      rw [List.foldl_cons, ih]
      simp [Store.deplacer, Store.recordEvent, Store.saveSubscription, evenement]

theorem mem_deplaces {candidat : Subscription × Plan} :
    candidat ∈ store.deplaces essai ↔ candidat.1 ∈ store.subscriptions ∧
      store.plans.find? candidat.1.plan = some candidat.2 ∧
      store.moves essai candidat.1 = true := by
  obtain ⟨row, source⟩ := candidat
  rw [Store.deplaces, List.mem_filter, Store.candidats, List.mem_filterMap]
  constructor
  · rintro ⟨⟨listed, inside, found⟩, movable⟩
    obtain ⟨plan, known, same⟩ := Option.map_eq_some_iff.mp found
    cases same
    obtain ⟨member, trial⟩ := List.mem_filter.mp inside
    refine ⟨List.mem_reverse.mp member, known, ?_⟩
    rw [Store.moves, known]
    exact Bool.and_eq_true_iff.mpr ⟨trial, movable⟩
  · rintro ⟨member, known, moves⟩
    rw [Store.moves, known] at moves
    obtain ⟨trial, movable⟩ := Bool.and_eq_true_iff.mp moves
    refine ⟨⟨row, List.mem_filter.mpr ⟨List.mem_reverse.mpr member, trial⟩, ?_⟩, movable⟩
    rw [known]
    rfl

/-- No subscription is moved twice. -/
theorem nodup_deplaces (store : Store) (essai : Plan) :
    ((store.deplaces essai).map fun candidat => candidat.1.id).Nodup := by
  refine List.pairwise_map.mpr (List.Pairwise.filter _ ?_)
  have rows : store.subscriptions.rows.reverse.Pairwise fun first second => first.id ≠ second.id :=
    List.pairwise_reverse.mpr (store.subscriptions.increasing.imp fun lower => lower.ne')
  refine List.Pairwise.filterMap _ (fun first second apart candidat inFirst other inSecond => ?_)
    (rows.filter _)
  obtain ⟨_, _, rfl⟩ := Option.map_eq_some_iff.mp inFirst
  obtain ⟨_, _, rfl⟩ := Option.map_eq_some_iff.mp inSecond
  exact apart

theorem moved_iff (member : row ∈ store.subscriptions) :
    ((store.deplaces essai).map fun candidat => candidat.1.id).contains row.id = true ↔
      store.moves essai row = true := by
  rw [List.contains_iff_mem, List.mem_map]
  constructor
  · rintro ⟨candidat, moved, same⟩
    obtain ⟨inside, _, moves⟩ := mem_deplaces.mp moved
    rwa [Table.ident_injective inside member same] at moves
  · intro moves
    have found := moves
    rw [Store.moves, Bool.and_eq_true] at found
    obtain ⟨source, known, _⟩ := (Option.any_eq_true _ _).mp found.2
    exact ⟨(row, source), mem_deplaces.mpr ⟨member, known, moves⟩, rfl⟩

/-- What a pass writes: the plan of the trials that it moves, and an event for each. -/
theorem basculerEssais_fst (found : store.offreEssai codeEssai = some essai) :
    (store.basculerEssais tenantName unicode codeEssai).1 =
      { plans := store.plans
        subscriptions := store.subscriptions.updateWhere (store.moves essai)
          (Subscription.withPlan essai.id) (ident_withPlan essai.id)
        events := store.events ++ (store.deplaces essai).map (evenement essai) } := by
  rw [Store.basculerEssais, found]
  dsimp only
  rw [foldl_basculer_fst]
  change (store.deplaces essai).foldl _ store = _
  rw [foldl_deplacer, Table.foldl_modify _ _ _ (ident_withPlan essai.id) fun _ => rfl]
  congr 1
  refine Table.eq_of_rows (List.map_congr_left fun row member => ?_) rfl
  have same : ((store.deplaces essai).map fun candidat => candidat.1.id).contains row.id = true ↔
      store.moves essai row = true := moved_iff member
  simp only [ident, same]

theorem basculerEssais_of_settled (found : store.offreEssai codeEssai = some essai)
    (settled : ∀ row ∈ store.subscriptions, store.moves essai row = false) :
    (store.basculerEssais tenantName unicode codeEssai).1 = store := by
  have none : store.deplaces essai = [] := by
    refine List.eq_nil_iff_forall_not_mem.mpr fun candidat moved => ?_
    obtain ⟨inside, _, moves⟩ := mem_deplaces.mp moved
    rw [settled _ inside] at moves
    cases moves
  rw [Store.basculerEssais, found]
  dsimp only
  rw [foldl_basculer_fst]
  change (store.deplaces essai).foldl _ store = store
  rw [none, List.foldl_nil]

/-- A trial that is moved takes no more slots than before. -/
theorem quota_withPlan_le (known : essai ∈ store.plans) (moves : store.moves essai row = true) :
    store.monitoredAssetsQuota (row.withPlan essai.id) ≤ store.monitoredAssetsQuota row := by
  rw [Store.moves, Bool.and_eq_true] at moves
  obtain ⟨source, found, movable⟩ := (Option.any_eq_true _ _).mp moves.2
  have fits : essai.monitoredAssets ≤ source.monitoredAssets :=
    of_decide_eq_true (Bool.and_eq_true_iff.mp movable).2
  have arrived : store.plans.find? essai.id = some essai := Table.find?_eq_some_iff.mpr ⟨known, rfl⟩
  rw [Store.monitoredAssetsQuota, Store.monitoredAssetsQuota, Store.planQuota, Store.planQuota]
  change row.overrideMonitoredAssets.getD (((store.plans.find? essai.id).map _).getD 0) ≤ _
  rw [arrived, found]
  cases row.overrideMonitoredAssets with
  | some quota => exact Nat.le_refl _
  | none => exact fits

theorem committedBy_withPlan_le (known : essai ∈ store.plans)
    (moves : store.moves essai row = true) :
    store.committedBy (row.withPlan essai.id) ≤ store.committedBy row := by
  have quota := quota_withPlan_le known moves
  rw [Store.committedBy, Store.committedBy]
  change (if row.isOperational then _ else 0) ≤ _
  split
  · exact quota
  · exact Nat.le_refl _

end Pass

/-! ## Passes are sound -/

/-- What a pass leaves as it is: what is not a trial, what an operator has put on an internal
plan, and what is refused. -/
def Store.LeftAlone (store : Store) (codeEssai : String) (row : Subscription) : Prop :=
  row.status ≠ .trial ∨
    ∃ source ∈ store.plans.find? row.plan, source.status = .internal ∨
      ∃ essai ∈ store.offreEssai codeEssai, refusDeCapacite source essai ≠ ""

/-- Nothing changes but the plans of the trials that are moved, and no more slots are
committed. -/
structure PassSound (codeEssai : String) (before after : Store) : Prop where
  committed : after.monitoredSlotsCommitted ≤ before.monitoredSlotsCommitted
  leftAlone : ∀ row ∈ before.subscriptions, before.LeftAlone codeEssai row →
    row ∈ after.subscriptions ∧ after.journalOf row.id = before.journalOf row.id
  kept : ∃ plan : Subscription → Nat,
    after.subscriptions.rows = before.subscriptions.rows.map fun row => row.withPlan (plan row)

section Sound

variable {store : Store} {essai : Plan} {codeEssai : String} {row : Subscription}

theorem moves_eq_false_of_leftAlone (found : store.offreEssai codeEssai = some essai)
    (alone : store.LeftAlone codeEssai row) : store.moves essai row = false := by
  refine Bool.eq_false_iff.mpr fun moves => ?_
  rw [Store.moves, Bool.and_eq_true, Bool.and_eq_true] at moves
  obtain ⟨⟨trial, _⟩, follows⟩ := moves
  rcases alone with other | ⟨source, known, kept⟩
  · exact other (of_decide_eq_true trial)
  · obtain ⟨plan, same, movable⟩ := (Option.any_eq_true _ _).mp follows
    cases Option.mem_unique known same
    obtain ⟨notInternal, fits⟩ := Bool.and_eq_true_iff.mp movable
    rcases kept with internal | ⟨target, named, refused⟩
    · exact of_decide_eq_true notInternal internal
    · cases Option.mem_unique named found
      exact refused (refusDeCapacite_eq_empty_iff.mpr (of_decide_eq_true fits))

theorem mem_moved : row ∈ store.subscriptions.updateWhere (store.moves essai)
      (Subscription.withPlan essai.id) (ident_withPlan essai.id) ↔
    ∃ source ∈ store.subscriptions,
      (if store.moves essai source then source.withPlan essai.id else source) = row :=
  Table.mem_updateWhere

/-- The moves write nothing in the journals of the others. -/
theorem filter_evenement_eq_nil (member : row ∈ store.subscriptions)
    (stays : store.moves essai row = false) :
    ((store.deplaces essai).map (evenement essai)).filter
      (fun event => event.subscription = row.id) = [] := by
  refine List.filter_eq_nil_iff.mpr fun event listed => ?_
  obtain ⟨candidat, moved, rfl⟩ := List.mem_map.mp listed
  obtain ⟨inside, _, moves⟩ := mem_deplaces.mp moved
  intro same
  rw [Table.ident_injective inside member (of_decide_eq_true same), stays] at moves
  cases moves

theorem passSound_basculerEssais (tenantName : Nat → String) (unicode : Unicode)
    (found : store.offreEssai codeEssai = some essai) :
    PassSound codeEssai store (store.basculerEssais tenantName unicode codeEssai).1 := by
  have known : essai ∈ store.plans := List.mem_of_find?_eq_some found
  rw [basculerEssais_fst found]
  refine ⟨?_, fun row member alone => ?_, ?_⟩
  · rw [monitoredSlotsCommitted_eq_total, monitoredSlotsCommitted_eq_total]
    change ((store.subscriptions.rows.map _).map store.committedBy).sum ≤
      (store.subscriptions.rows.map store.committedBy).sum
    rw [List.map_map]
    refine List.sum_le_sum fun row _ => ?_
    dsimp only [Function.comp_apply]
    split
    · next moves => exact committedBy_withPlan_le known moves
    · exact Nat.le_refl _
  · have stays := moves_eq_false_of_leftAlone found alone
    refine ⟨mem_moved.mpr ⟨row, member, if_neg (Bool.eq_false_iff.mp stays)⟩, ?_⟩
    rw [Store.journalOf, List.filter_append, filter_evenement_eq_nil member stays, List.append_nil,
      Store.journalOf]
  · refine ⟨fun row => if store.moves essai row then essai.id else row.plan,
      List.map_congr_left fun row _ => ?_⟩
    cases moves : store.moves essai row with
    | true => simp only [moves, if_true]
    | false =>
        simp only [moves, Bool.false_eq_true, if_false]
        rfl

theorem passSound_refl (store : Store) (codeEssai : String) : PassSound codeEssai store store :=
  ⟨Nat.le_refl _, fun _ member _ => ⟨member, rfl⟩,
    ⟨Subscription.plan, (List.map_id store.subscriptions.rows).symm⟩⟩

/-- A pass leaves nothing to move. -/
theorem settled_basculerEssais (tenantName : Nat → String) (unicode : Unicode)
    (found : store.offreEssai codeEssai = some essai) :
    ∀ row ∈ (store.basculerEssais tenantName unicode codeEssai).1.subscriptions,
      (store.basculerEssais tenantName unicode codeEssai).1.moves essai row = false := by
  rw [basculerEssais_fst found]
  intro row member
  obtain ⟨source, _, rfl⟩ := mem_moved.mp member
  change store.moves essai _ = false
  by_cases moves : store.moves essai source = true
  · rw [if_pos moves]
    simp [Store.moves, Subscription.withPlan]
  · rw [if_neg moves]
    exact Bool.eq_false_iff.mpr moves

end Sound

theorem basculer_essais_sound (tenantName : Nat → String) (unicode : Unicode) (store : Store)
    (codeEssai : String) :
    PassSound codeEssai store (store.basculerEssais tenantName unicode codeEssai).1 ∧
      ((store.basculerEssais tenantName unicode codeEssai).1.basculerEssais tenantName unicode
        codeEssai).1 = (store.basculerEssais tenantName unicode codeEssai).1 := by
  cases found : store.offreEssai codeEssai with
  | none =>
      have same : (store.basculerEssais tenantName unicode codeEssai).1 = store := by
        rw [Store.basculerEssais, found]
      rw [same]
      exact ⟨passSound_refl store codeEssai, same⟩
  | some essai =>
      refine ⟨passSound_basculerEssais tenantName unicode found, ?_⟩
      refine basculerEssais_of_settled ?_ (settled_basculerEssais tenantName unicode found)
      rw [basculerEssais_fst found]
      exact found

end RssiService.Billing
