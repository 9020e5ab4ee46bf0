import Mathlib.Data.List.Basic

/-!
# Runs of a step function

A system is a step function from a state and an event to the next state.  A
run is a list of events.  The module relates what one step preserves to what
holds in every state of a run, in both directions: a condition that is exact
for one step is exact for whole runs.
-/

namespace Foundation.Run

variable {State Event : Type*}

/-- The state reached from `start` by the listed events, in order. -/
def after (step : State → Event → State) (start : State) (events : List Event) : State :=
  events.foldl step start

/-- `P` holds in the first state and in every state the run reaches. -/
def Always (step : State → Event → State) (P : State → Prop) : State → List Event → Prop
  | state, [] => P state
  | state, event :: rest => P state ∧ Always step P (step state event) rest

/-- Every event of the run meets `C` in the state where it is taken. -/
def EachStep (step : State → Event → State) (C : State → Event → Prop) :
    State → List Event → Prop
  | _, [] => True
  | state, event :: rest => C state event ∧ EachStep step C (step state event) rest

/-- Some event of the run meets `C` in the state where it is taken. -/
def SomeStep (step : State → Event → State) (C : State → Event → Prop) :
    State → List Event → Prop
  | _, [] => False
  | state, event :: rest => C state event ∨ SomeStep step C (step state event) rest

variable {step : State → Event → State} {P I : State → Prop} {C Q : State → Event → Prop}

@[simp]
theorem after_nil (start : State) : after step start [] = start := rfl

@[simp]
theorem after_cons (start : State) (event : Event) (rest : List Event) :
    after step start (event :: rest) = after step (step start event) rest := rfl

theorem after_append (start : State) (events later : List Event) :
    after step start (events ++ later) = after step (after step start events) later :=
  List.foldl_append

theorem Always.start {start : State} {events : List Event}
    (always : Always step P start events) : P start := by
  cases events with
  | nil => exact always
  | cons event rest => exact always.1

theorem always_append {start : State} {events later : List Event}
    (first : Always step P start events) (second : Always step P (after step start events) later) :
    Always step P start (events ++ later) := by
  induction events generalizing start with
  | nil => exact second
  | cons event rest ih => exact ⟨first.1, ih first.2 second⟩

/-- A property of every state of a run holds in its last state. -/
theorem Always.last {start : State} {events : List Event}
    (always : Always step P start events) : P (after step start events) := by
  induction events generalizing start with
  | nil => exact always
  | cons event rest ih => exact ih always.2

theorem Always.imp (weaker : ∀ state, P state → I state) {start : State} {events : List Event}
    (always : Always step P start events) : Always step I start events := by
  induction events generalizing start with
  | nil => exact weaker _ always
  | cons event rest ih => exact ⟨weaker _ always.1, ih always.2⟩

theorem Always.and {start : State} {events : List Event} (first : Always step P start events)
    (second : Always step I start events) :
    Always step (fun state => P state ∧ I state) start events := by
  induction events generalizing start with
  | nil => exact ⟨first, second⟩
  | cons event rest ih => exact ⟨⟨first.1, second.1⟩, ih first.2 second.2⟩

theorem EachStep.imp (weaker : ∀ state event, C state event → Q state event) {start : State}
    {events : List Event} (each : EachStep step C start events) : EachStep step Q start events := by
  induction events generalizing start with
  | nil => trivial
  | cons event rest ih => exact ⟨weaker _ _ each.1, ih each.2⟩

/-- What every step of a run meets, a step in the middle of it meets. -/
theorem EachStep.and {start : State} {events : List Event} (first : EachStep step C start events)
    (second : EachStep step Q start events) :
    EachStep step (fun state event => C state event ∧ Q state event) start events := by
  induction events generalizing start with
  | nil => trivial
  | cons event rest ih => exact ⟨⟨first.1, second.1⟩, ih first.2 second.2⟩

theorem EachStep.between {start : State} {earlier later : List Event} {event : Event}
    (each : EachStep step C start (earlier ++ event :: later)) :
    C (after step start earlier) event := by
  induction earlier generalizing start with
  | nil => exact each.1
  | cons first rest ih => exact ih each.2

theorem eachStep_of_between {start : State} {events : List Event}
    (met : ∀ earlier event later, events = earlier ++ event :: later →
      C (after step start earlier) event) :
    EachStep step C start events := by
  induction events generalizing start with
  | nil => trivial
  | cons event rest ih =>
      refine ⟨met [] event rest rfl, ih ?_⟩
      rintro earlier next later rfl
      exact met (event :: earlier) next later rfl

/-- A property that every step preserves holds in every state of every run. -/
theorem always_of_step (preserves : ∀ state event, P state → P (step state event))
    {start : State} (initial : P start) (events : List Event) :
    Always step P start events := by
  induction events generalizing start with
  | nil => exact initial
  | cons event rest ih => exact ⟨initial, ih (preserves _ _ initial)⟩

/-- The same where each step of the run itself preserves the property. -/
theorem always_of_eachStep {start : State} {events : List Event} (initial : P start)
    (each : EachStep step (fun state event => P state → P (step state event)) start events) :
    Always step P start events := by
  induction events generalizing start with
  | nil => exact initial
  | cons event rest ih => exact ⟨initial, ih (each.1 initial) each.2⟩

theorem EachStep.imp_of_always (weaker : ∀ state event, P state → C state event → Q state event)
    {start : State} {events : List Event} (each : EachStep step C start events)
    (always : Always step P start events) : EachStep step Q start events := by
  induction events generalizing start with
  | nil => trivial
  | cons event rest ih => exact ⟨weaker _ _ always.1 each.1, ih each.2 always.2⟩

theorem eachStep_of_always (met : ∀ state event, P state → C state event)
    {start : State} {events : List Event} (always : Always step P start events) :
    EachStep step C start events := by
  induction events generalizing start with
  | nil => trivial
  | cons event rest ih => exact ⟨met _ _ always.1, ih always.2⟩

/-- A step condition that is exact for `P`, given a standing invariant, is
exact for whole runs. -/
theorem always_iff_eachStep (invariant : ∀ state event, I state → I (step state event))
    (exact_step : ∀ state event, I state → P state → (P (step state event) ↔ C state event))
    {start : State} (standing : I start) (initial : P start) (events : List Event) :
    Always step P start events ↔ EachStep step C start events := by
  induction events generalizing start with
  | nil => exact ⟨fun _ => trivial, fun _ => initial⟩
  | cons event rest ih =>
      have here := exact_step start event standing initial
      constructor
      · rintro ⟨_, later⟩
        have next := later.start
        exact ⟨here.mp next, (ih (invariant _ _ standing) next).mp later⟩
      · rintro ⟨now, later⟩
        have next := here.mpr now
        exact ⟨initial, (ih (invariant _ _ standing) next).mpr later⟩

/-- The same where no standing invariant is needed. -/
theorem always_iff_eachStep_of_start
    (exact_step : ∀ state event, P state → (P (step state event) ↔ C state event))
    {start : State} (initial : P start) (events : List Event) :
    Always step P start events ↔ EachStep step C start events :=
  always_iff_eachStep (I := fun _ => True) (fun _ _ _ => trivial)
    (fun state event _ => exact_step state event) trivial initial events

/-- A property of the states and one of the steps, with a step condition that is
exact for both. -/
theorem always_and_eachStep_iff
    (exact_step : ∀ state event, P state →
      (P (step state event) ∧ Q state event ↔ C state event))
    {start : State} (initial : P start) (events : List Event) :
    Always step P start events ∧ EachStep step Q start events ↔ EachStep step C start events := by
  induction events generalizing start with
  | nil => exact iff_of_true ⟨initial, trivial⟩ trivial
  | cons event rest ih =>
      have here := exact_step start event initial
      constructor
      · rintro ⟨⟨_, later⟩, now, each⟩
        exact ⟨here.mp ⟨later.start, now⟩, (ih later.start).mp ⟨later, each⟩⟩
      · rintro ⟨now, each⟩
        obtain ⟨next, meets⟩ := here.mpr now
        obtain ⟨later, rest⟩ := (ih next).mpr each
        exact ⟨⟨initial, later⟩, meets, rest⟩

/-- A condition on runs that may start outside of `P`. -/
theorem always_iff_start_and_eachStep
    (exact_step : ∀ state event, P state → (P (step state event) ↔ C state event))
    (start : State) (events : List Event) :
    Always step P start events ↔ P start ∧ EachStep step C start events := by
  constructor
  · intro always
    exact ⟨always.start, (always_iff_eachStep_of_start exact_step always.start events).mp always⟩
  · rintro ⟨initial, each⟩
    exact (always_iff_eachStep_of_start exact_step initial events).mpr each

/-- A step property that is exact where `P` holds, and that carries `P` over the
step, is exact for whole runs. -/
theorem eachStep_iff_eachStep (invariant : ∀ state event, I state → I (step state event))
    (exact_step : ∀ state event, I state → P state → (Q state event ↔ C state event))
    (carries : ∀ state event, I state → P state → Q state event → P (step state event))
    {start : State} (standing : I start) (initial : P start) (events : List Event) :
    EachStep step Q start events ↔ EachStep step C start events := by
  induction events generalizing start with
  | nil => exact Iff.rfl
  | cons event rest ih =>
      have here := exact_step start event standing initial
      constructor
      · rintro ⟨now, later⟩
        have next := carries start event standing initial now
        exact ⟨here.mp now, (ih (invariant _ _ standing) next).mp later⟩
      · rintro ⟨now, later⟩
        have next := carries start event standing initial (here.mpr now)
        exact ⟨here.mpr now, (ih (invariant _ _ standing) next).mpr later⟩

/-- Step properties that agree under a standing invariant agree on runs. -/
theorem eachStep_congr (invariant : ∀ state event, I state → I (step state event))
    (agree : ∀ state event, I state → (Q state event ↔ C state event))
    {start : State} (standing : I start) (events : List Event) :
    EachStep step Q start events ↔ EachStep step C start events := by
  refine eachStep_iff_eachStep (P := fun _ => True) invariant ?_ ?_ standing trivial events
  · intro state event standing _
    exact agree state event standing
  · intro _ _ _ _ _
    trivial

theorem eachStep_congr_of_forall (agree : ∀ state event, Q state event ↔ C state event)
    (start : State) (events : List Event) :
    EachStep step Q start events ↔ EachStep step C start events := by
  induction events generalizing start with
  | nil => exact Iff.rfl
  | cons event rest ih => exact and_congr (agree start event) (ih (step start event))

theorem eachStep_of_forall (met : ∀ state event, C state event) (start : State)
    (events : List Event) : EachStep step C start events := by
  induction events generalizing start with
  | nil => trivial
  | cons event rest ih => exact ⟨met start event, ih (step start event)⟩

theorem eachStep_of_forall_mem {start : State} {events : List Event}
    (met : ∀ event ∈ events, ∀ state, C state event) : EachStep step C start events := by
  induction events generalizing start with
  | nil => trivial
  | cons event rest ih =>
      rw [List.forall_mem_cons] at met
      exact ⟨met.1 start, ih met.2⟩

/-- A property that no step restores holds at the end exactly where it held at
first and no step lost it. -/
theorem after_iff_eachStep (step : State → Event → State)
    (invariant : ∀ state event, I state → I (step state event))
    (exact_step : ∀ state event, I state → (P (step state event) ↔ P state ∧ C state event))
    (start : State) (standing : I start) (events : List Event) :
    P (after step start events) ↔ P start ∧ EachStep step C start events := by
  induction events generalizing start with
  | nil => exact (and_iff_left trivial).symm
  | cons event rest ih =>
      rw [after_cons, ih _ (invariant _ _ standing), exact_step _ _ standing, and_assoc]
      exact Iff.rfl

/-- A property that no step loses holds at the end exactly where it held at
first or some step brought it about. -/
theorem after_iff_someStep (step : State → Event → State)
    (invariant : ∀ state event, I state → I (step state event))
    (exact_step : ∀ state event, I state → (P (step state event) ↔ P state ∨ C state event))
    (start : State) (standing : I start) (events : List Event) :
    P (after step start events) ↔ P start ∨ SomeStep step C start events := by
  induction events generalizing start with
  | nil => exact (or_iff_left id).symm
  | cons event rest ih =>
      rw [after_cons, ih _ (invariant _ _ standing), exact_step _ _ standing, or_assoc]
      exact Iff.rfl

theorem someStep_and_left {fact : Prop} {start : State} {events : List Event} :
    SomeStep step (fun state event => fact ∧ C state event) start events ↔
      fact ∧ SomeStep step C start events := by
  induction events generalizing start with
  | nil => exact (and_false fact).to_iff.symm
  | cons event rest ih => rw [SomeStep, SomeStep, ih, and_or_left]

/-! ## What the events of a run give -/

/-- What the events give, each in the state where it is taken, in order. -/
def gathered {Item : Type*} (step : State → Event → State)
    (gives : State → Event → List Item) : State → List Event → List Item
  | _, [] => []
  | state, event :: rest => gives state event ++ gathered step gives (step state event) rest

/-- A log that each step extends by what its event gives holds all that the run gives. -/
theorem log_after {Item : Type*} {gives : State → Event → List Item} (log : State → List Item)
    (extends_log : ∀ state event, log (step state event) = log state ++ gives state event)
    (start : State) (events : List Event) :
    log (after step start events) = log start ++ gathered step gives start events := by
  induction events generalizing start with
  | nil => exact (List.append_nil _).symm
  | cons event rest ih => rw [after_cons, ih, extends_log, List.append_assoc, gathered]

/-! ## What later states owe to earlier ones -/

/-- Every state of the run stands in `R` to itself and to every later one. -/
def Related (step : State → Event → State) (R : State → State → Prop) :
    State → List Event → Prop
  | state, [] => R state state
  | state, event :: rest =>
      Always step (R state) state (event :: rest) ∧ Related step R (step state event) rest

section Related

variable {R : State → State → Prop}

theorem always_of_eachStep_trans (trans : ∀ first second third, R first second → R second third →
      R first third)
    {origin start : State} {events : List Event} (reached : R origin start)
    (each : EachStep step (fun state event => R state (step state event)) start events) :
    Always step (R origin) start events := by
  induction events generalizing start with
  | nil => exact reached
  | cons event rest ih => exact ⟨reached, ih (trans _ _ _ reached each.1) each.2⟩

/-- A preorder relates all the states of a run exactly when it relates each one
to the next. -/
theorem related_iff_eachStep (refl : ∀ state, R state state)
    (trans : ∀ first second third, R first second → R second third → R first third)
    {start : State} {events : List Event} :
    Related step R start events ↔
      EachStep step (fun state event => R state (step state event)) start events := by
  induction events generalizing start with
  | nil => exact iff_of_true (refl start) trivial
  | cons event rest ih =>
      constructor
      · rintro ⟨⟨_, later⟩, related⟩
        exact ⟨later.start, ih.mp related⟩
      · intro each
        exact ⟨always_of_eachStep_trans trans (refl start) each, ih.mpr each.2⟩

/-- A step condition that is exact for a preorder relates all the states of a run. -/
theorem related_iff_of_step (refl : ∀ state, R state state)
    (trans : ∀ first second third, R first second → R second third → R first third)
    (exact_step : ∀ state event, R state (step state event) ↔ C state event)
    (start : State) (events : List Event) :
    Related step R start events ↔ EachStep step C start events := by
  rw [related_iff_eachStep refl trans]
  exact eachStep_congr_of_forall exact_step start events

theorem Related.last {start : State} {earlier later : List Event}
    (related : Related step R start (earlier ++ later)) :
    R (after step start earlier) (after step start (earlier ++ later)) := by
  induction earlier generalizing start with
  | nil =>
      cases later with
      | nil => exact related
      | cons event rest => exact related.1.last
  | cons event rest ih => exact ih related.2

theorem Related.imp_of_always {Q : State → State → Prop}
    (weaker : ∀ earlier later, I earlier → I later → R earlier later → Q earlier later)
    {start : State} {events : List Event} (related : Related step R start events)
    (always : Always step I start events) : Related step Q start events := by
  induction events generalizing start with
  | nil => exact weaker _ _ always always related
  | cons event rest ih =>
      exact ⟨(related.1.and always).imp fun later both => weaker _ _ always.1 both.2 both.1,
        ih related.2 always.2⟩

end Related

end Foundation.Run
