import RssiService.Foundation.Interleaving

/-!
# Writes that a program is sure of

A request that reads one thing and writes it down later is sure of what it writes where the
other requests only make the state grow.  Such writes meet their condition over every schedule,
so they leave no condition on a schedule: what is left is a condition on the other writes.
-/

namespace Foundation.Guarantee

open Run Interleaving

variable {State Write Request : Type*}

/-- Each write to come meets its condition, whatever the other requests do meanwhile: the state
grows, and has the property `P` wherever the program goes on. -/
def Ensures (apply : State → Write → State) (grows : State → State → Prop) (P : State → Prop)
    (meets : State → Write → Prop) : Program State Write → State → Prop
  | .done, _ => True
  | .read next, state =>
      ∀ later, grows state later → P later → Ensures apply grows P meets (next later) later
  | .write change next, state =>
      ∀ later, grows state later → P later →
        meets later change ∧ Ensures apply grows P meets next (apply later change)

section Schedules

variable {apply : State → Write → State} {program : Request → Program State Write}
  {grows : State → State → Prop} {P : State → Prop} {meets fits : State → Write → Prop}

theorem Ensures.mono (trans : ∀ first second third, grows first second → grows second third →
      grows first third)
    {left : Program State Write} {state later : State}
    (ensures : Ensures apply grows P meets left state) (growth : grows state later) :
    Ensures apply grows P meets left later := by
  cases left with
  | done => trivial
  | read next =>
      intro last more holds
      exact ensures last (trans _ _ _ growth more) holds
  | write change next =>
      intro last more holds
      exact ensures last (trans _ _ _ growth more) holds

/-- Every request is sure of the writes it is still to make. -/
def Sure (apply : State → Write → State) (grows : State → State → Prop) (P : State → Prop)
    (meets : State → Write → Prop) (session : Session State Write) : Prop :=
  ∀ client, Ensures apply grows P meets (session.pending client) session.state

/-- One request goes on, the others stay where they are. -/
theorem ensures_update {pending : Nat → Program State Write} {client : Nat}
    {left : Program State Write} {state : State} (mine : Ensures apply grows P meets left state)
    (others : ∀ other, Ensures apply grows P meets (pending other) state) (other : Nat) :
    Ensures apply grows P meets (Function.update pending client left other) state := by
  rcases eq_or_ne other client with rfl | apart
  · rw [Function.update_self]
    exact mine
  · rw [Function.update_of_ne apart]
    exact others other

theorem sure_step (refl : ∀ state, grows state state)
    (trans : ∀ first second third, grows first second → grows second third → grows first third)
    (growing : ∀ state change, grows state (apply state change))
    (ensures : ∀ request state, Ensures apply grows P meets (program request) state)
    {session : Session State Write} (sure : Sure apply grows P meets session)
    (holds : P session.state) (moment : Moment Request) :
    Sure apply grows P meets (step apply program session moment) := by
  cases moment with
  | arrive client request =>
      rw [step]
      cases session.pending client with
      | read next => exact sure
      | write change next => exact sure
      | done => exact ensures_update (ensures request session.state) sure
  | advance client =>
      have mine := sure client
      rw [step]
      cases left : session.pending client with
      | done => exact sure
      | read next =>
          rw [left] at mine
          exact ensures_update (mine session.state (refl _) holds) sure
      | write change next =>
          rw [left] at mine
          refine ensures_update (mine session.state (refl _) holds).2 ?_
          intro other
          exact (sure other).mono trans (growing session.state change)

theorem meets_of_sure (refl : ∀ state, grows state state) {session : Session State Write}
    (sure : Sure apply grows P meets session) (holds : P session.state) (moment : Moment Request) :
    WriteMeets meets session moment := by
  cases moment with
  | arrive client request => trivial
  | advance client =>
      have mine := sure client
      rw [WriteMeets]
      cases left : session.pending client with
      | done => trivial
      | read next => trivial
      | write change next =>
          rw [left] at mine
          exact (mine session.state (refl _) holds).1

theorem step_iff_of_sure (refl : ∀ state, grows state state)
    (exact_write : ∀ state change, P state → meets state change →
      (P (apply state change) ↔ fits state change))
    {session : Session State Write} (sure : Sure apply grows P meets session)
    (holds : P session.state) (moment : Moment Request) :
    P (step apply program session moment).state ↔ WriteMeets fits session moment := by
  have met := meets_of_sure refl sure holds moment
  cases moment with
  | arrive client request =>
      refine iff_of_true ?_ trivial
      rw [step]
      split
      · exact holds
      · exact holds
  | advance client =>
      rw [WriteMeets] at met
      rw [step, WriteMeets]
      cases left : session.pending client with
      | done => exact iff_of_true holds trivial
      | read next => exact iff_of_true holds trivial
      | write change next =>
          rw [left] at met
          exact exact_write session.state change holds met

/-- Over every schedule of requests that are sure of some of what they write, a property holds
in every state exactly where it holds at first and each write fits the state it is made in. -/
theorem always_iff_writesMeet (refl : ∀ state, grows state state)
    (trans : ∀ first second third, grows first second → grows second third → grows first third)
    (growing : ∀ state change, grows state (apply state change))
    (ensures : ∀ request state, Ensures apply grows P meets (program request) state)
    (exact_write : ∀ state change, P state → meets state change →
      (P (apply state change) ↔ fits state change))
    (start : State) (moments : List (Moment Request)) :
    Always (step apply program) (fun session => P session.state) (Session.start start) moments ↔
      P start ∧ EachStep (step apply program) (WriteMeets fits) (Session.start start) moments := by
  have whole (session : Session State Write) (sure : Sure apply grows P meets session) :
      Always (step apply program) (fun session => P session.state) session moments ↔
        P session.state ∧ EachStep (step apply program) (WriteMeets fits) session moments := by
    induction moments generalizing session with
    | nil => exact (and_iff_left trivial).symm
    | cons moment rest ih =>
        have here (holds : P session.state) :
            P (step apply program session moment).state ↔ WriteMeets fits session moment :=
          step_iff_of_sure refl exact_write sure holds moment
        constructor
        · rintro ⟨holds, later⟩
          have next := sure_step refl trans growing ensures sure holds moment
          exact ⟨holds, (here holds).mp later.start, ((ih _ next).mp later).2⟩
        · rintro ⟨holds, now, later⟩
          have next := sure_step refl trans growing ensures sure holds moment
          exact ⟨holds, (ih _ next).mpr ⟨(here holds).mpr now, later⟩⟩
  exact whole (Session.start start) fun _ => trivial

end Schedules

end Foundation.Guarantee
