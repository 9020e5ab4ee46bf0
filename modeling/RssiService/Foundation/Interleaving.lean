import Mathlib.Logic.Function.Basic
import RssiService.Foundation.Run

/-!
# Requests that read and write in turn

A request is a program of reads and writes on one shared state, and every read
sees what all the requests have written so far.  A property that holds over
every schedule is a property of the writes: each of them must fit the state it
is made in, whatever its request has read before.
-/

namespace Foundation.Interleaving

open Foundation.Run

variable {State Write Request : Type*}

/-- What is left to do of a request. -/
inductive Program (State Write : Type*) where
  | done
  | read (next : State → Program State Write)
  | write (change : Write) (next : Program State Write)

namespace Program

/-- Go on with what a read finds, unless it refuses. -/
def attempt {Error Found : Type*} (look : State → Except Error Found)
    (next : Found → Program State Write) : Program State Write :=
  .read fun state =>
    match look state with
    | .error _ => .done
    | .ok found => next found

/-- A list of writes, one after the other. -/
def ofWrites (writes : List Write) : Program State Write :=
  writes.foldr .write .done

/-- The state after a program that nothing interrupts. -/
def alone (apply : State → Write → State) : Program State Write → State → State
  | .done, state => state
  | .read next, state => alone apply (next state) state
  | .write change next, state => alone apply next (apply state change)

/-- The program makes this write, if its reads turn out that way. -/
def Makes : Program State Write → Write → Prop
  | .done, _ => False
  | .read next, made => ∃ state, Makes (next state) made
  | .write change next, made => made = change ∨ Makes next made

section Alone

variable {apply : State → Write → State} {state : State}

@[simp]
theorem alone_done : alone apply (.done : Program State Write) state = state := rfl

@[simp]
theorem alone_write {change : Write} {next : Program State Write} :
    alone apply (.write change next) state = alone apply next (apply state change) := rfl

theorem alone_attempt_ok {Error Found : Type*} {look : State → Except Error Found}
    {next : Found → Program State Write} {found : Found} (passes : look state = .ok found) :
    alone apply (attempt look next) state = alone apply (next found) state := by
  rw [attempt, alone, passes]

theorem alone_attempt_error {Error Found : Type*} {look : State → Except Error Found}
    {next : Found → Program State Write} {error : Error} (refuses : look state = .error error) :
    alone apply (attempt look next) state = state := by
  rw [attempt, alone, refuses]
  rfl

theorem alone_ofWrites (writes : List Write) (state : State) :
    (ofWrites writes).alone apply state = writes.foldl apply state := by
  induction writes generalizing state with
  | nil => rfl
  | cons change rest ih => exact ih (apply state change)

/-- Every write of the uninterrupted program fits the state it is made in. -/
def WritesFit (apply : State → Write → State) (fits : State → Write → Prop) :
    Program State Write → State → Prop
  | .done, _ => True
  | .read next, state => WritesFit apply fits (next state) state
  | .write change next, state =>
      fits state change ∧ WritesFit apply fits next (apply state change)

theorem writesFit_attempt {Error Found : Type*} {fits : State → Write → Prop}
    {look : State → Except Error Found} {next : Found → Program State Write} :
    (attempt look next).WritesFit apply fits state ↔
      ∀ found, look state = .ok found → (next found).WritesFit apply fits state := by
  rw [attempt, WritesFit]
  cases look state with
  | error error => exact iff_of_true trivial nofun
  | ok value =>
      constructor
      · rintro fit found same
        cases same
        exact fit
      · exact fun fit => fit value rfl

theorem writesFit_ofWrites {fits : State → Write → Prop} {writes : List Write}
    (each : ∀ change ∈ writes, ∀ state, fits state change) (state : State) :
    (ofWrites writes).WritesFit apply fits state := by
  induction writes generalizing state with
  | nil => trivial
  | cons change rest ih =>
      rw [List.forall_mem_cons] at each
      exact ⟨each.1 state, ih each.2 _⟩

/-- What fitting writes preserve, an uninterrupted program of fitting writes does. -/
theorem holds_alone {P : State → Prop} {fits : State → Write → Prop}
    (preserves : ∀ state change, P state → fits state change → P (apply state change))
    {program : Program State Write} (writes : program.WritesFit apply fits state)
    (holds : P state) : P (program.alone apply state) := by
  induction program generalizing state with
  | done => exact holds
  | read next ih => exact ih state writes holds
  | write change next ih => exact ih writes.2 (preserves state change holds writes.1)

end Alone

end Program

/-- Serve a request that nothing interrupts. -/
def serve (apply : State → Write → State) (program : Request → Program State Write)
    (state : State) (request : Request) : State :=
  (program request).alone apply state

/-- The shared state, and what is left of the request of each client. -/
structure Session (State Write : Type*) where
  state : State
  pending : Nat → Program State Write

def Session.start (state : State) : Session State Write := ⟨state, fun _ => .done⟩

/-- A client sends a request, or its request takes one more step. -/
inductive Moment (Request : Type*) where
  | arrive (client : Nat) (request : Request)
  | advance (client : Nat)

def Moment.client : Moment Request → Nat
  | .arrive client _ | .advance client => client

/-- One moment of a schedule.  A client sends nothing before its request has ended. -/
def step (apply : State → Write → State) (program : Request → Program State Write)
    (session : Session State Write) : Moment Request → Session State Write
  | .arrive client request =>
      match session.pending client with
      | .done =>
          { session with pending := Function.update session.pending client (program request) }
      | _ => session
  | .advance client =>
      match session.pending client with
      | .done => session
      | .read next =>
          { session with
            pending := Function.update session.pending client (next session.state) }
      | .write change next =>
          { state := apply session.state change
            pending := Function.update session.pending client next }

/-- A moment of one client leaves the requests of the others as they are. -/
theorem step_pending_of_ne {apply : State → Write → State}
    {program : Request → Program State Write} {session : Session State Write}
    {moment : Moment Request} {other : Nat} (apart : moment.client ≠ other) :
    (step apply program session moment).pending other = session.pending other := by
  cases moment with
  | arrive client request =>
      rw [step]
      split
      · exact Function.update_of_ne apart.symm _ _
      · rfl
  | advance client =>
      rw [step]
      split
      · rfl
      · exact Function.update_of_ne apart.symm _ _
      · exact Function.update_of_ne apart.symm _ _

/-- The write of this moment, if it is one, meets a condition in the state it is
made in. -/
def WriteMeets (fits : State → Write → Prop) (session : Session State Write) :
    Moment Request → Prop
  | .arrive _ _ => True
  | .advance client =>
      match session.pending client with
      | .write change _ => fits session.state change
      | _ => True

theorem WriteMeets.of_forall {fits : State → Write → Prop}
    (meets : ∀ state change, fits state change) (session : Session State Write)
    (moment : Moment Request) : WriteMeets fits session moment := by
  cases moment with
  | arrive client request => trivial
  | advance client =>
      rw [WriteMeets]
      split
      · exact meets _ _
      · trivial

theorem WriteMeets.of_holds {P : State → Prop} {fits : State → Write → Prop}
    {session : Session State Write} {moment : Moment Request} (holds : P session.state)
    (meets : WriteMeets (fun state change => P state → fits state change) session moment) :
    WriteMeets fits session moment := by
  cases moment with
  | arrive client request => trivial
  | advance client =>
      rw [WriteMeets] at meets ⊢
      split
      · rename_i change next left
        rw [left] at meets
        exact meets holds
      · trivial

theorem WriteMeets.imp {strong weak : State → Write → Prop} {session : Session State Write}
    {moment : Moment Request} (weaker : ∀ state change, strong state change → weak state change)
    (meets : WriteMeets strong session moment) : WriteMeets weak session moment := by
  cases moment with
  | arrive client request => trivial
  | advance client =>
      rw [WriteMeets] at meets ⊢
      split
      · rename_i change next left
        rw [left] at meets
        exact weaker _ _ meets
      · trivial

/-- A relation that every write stands in, every moment stands in. -/
theorem related_of_writeMeets {apply : State → Write → State}
    {program : Request → Program State Write} {R : State → State → Prop}
    (refl : ∀ state, R state state) {session : Session State Write} {moment : Moment Request}
    (meets : WriteMeets (fun state change => R state (apply state change)) session moment) :
    R session.state (step apply program session moment).state := by
  cases moment with
  | arrive client request =>
      rw [step]
      split
      · exact refl _
      · exact refl _
  | advance client =>
      rw [WriteMeets] at meets
      rw [step]
      split
      · exact refl _
      · exact refl _
      · rename_i change next left
        rw [left] at meets
        exact meets

section Schedules

variable {apply : State → Write → State} {program : Request → Program State Write}
  {P : State → Prop} {fits : State → Write → Prop}

/-- What one moment preserves: only a write changes the state. -/
theorem step_iff_writeMeets
    (exact_write : ∀ state change, P state → (P (apply state change) ↔ fits state change))
    (session : Session State Write) (moment : Moment Request) (holds : P session.state) :
    P (step apply program session moment).state ↔ WriteMeets fits session moment := by
  cases moment with
  | arrive client request =>
      refine iff_of_true ?_ trivial
      rw [step]
      split <;> exact holds
  | advance client =>
      rw [step, WriteMeets]
      cases session.pending client with
      | done => exact iff_of_true holds trivial
      | read next => exact iff_of_true holds trivial
      | write change next => exact exact_write session.state change holds

/-- Over every schedule, a property holds in every state exactly where it holds
at first and each write fits the state it is made in. -/
theorem always_iff_writesMeet
    (exact_write : ∀ state change, P state → (P (apply state change) ↔ fits state change))
    (start : Session State Write) (moments : List (Moment Request)) :
    Always (step apply program) (fun session => P session.state) start moments ↔
      P start.state ∧ EachStep (step apply program) (WriteMeets fits) start moments :=
  always_iff_start_and_eachStep
    (fun session moment holds => step_iff_writeMeets exact_write session moment holds) start moments

/-- A property of the states and one of the writes, with a condition on each write that
is exact for both. -/
theorem always_and_writesMeet_iff {Q : State → Write → Prop}
    (exact_write : ∀ state change, P state →
      (P (apply state change) ∧ Q state change ↔ fits state change))
    {start : Session State Write} (initial : P start.state) (moments : List (Moment Request)) :
    Always (step apply program) (fun session => P session.state) start moments ∧
        EachStep (step apply program) (WriteMeets Q) start moments ↔
      EachStep (step apply program) (WriteMeets fits) start moments := by
  refine always_and_eachStep_iff (P := fun session : Session State Write => P session.state)
    (fun session moment holds => ?_) initial moments
  cases moment with
  | arrive client request =>
      refine iff_of_true ⟨?_, trivial⟩ trivial
      rw [step]
      split
      · exact holds
      · exact holds
  | advance client =>
      rw [step, WriteMeets, WriteMeets]
      cases session.pending client with
      | done => exact iff_of_true ⟨holds, trivial⟩ trivial
      | read next => exact iff_of_true ⟨holds, trivial⟩ trivial
      | write change next => exact exact_write session.state change holds

/-- A preorder relates all the states of every schedule exactly where each write stands
in it. -/
theorem related_iff_writesMeet {R : State → State → Prop} (refl : ∀ state, R state state)
    (trans : ∀ first second third, R first second → R second third → R first third)
    (start : Session State Write) (moments : List (Moment Request)) :
    Related (step apply program) (fun earlier later => R earlier.state later.state) start moments ↔
      EachStep (step apply program)
        (WriteMeets fun state change => R state (apply state change)) start moments := by
  refine related_iff_of_step
    (R := fun earlier later : Session State Write => R earlier.state later.state) (fun _ => refl _)
    (fun _ _ _ => trans _ _ _) (fun session moment => ?_) start moments
  refine ⟨fun related => ?_, related_of_writeMeets refl⟩
  cases moment with
  | arrive client request => trivial
  | advance client =>
      rw [step] at related
      rw [WriteMeets]
      cases left : session.pending client with
      | done => trivial
      | read next => trivial
      | write change next =>
          simp only [left] at related
          exact related

/-- A property of the states and a preorder between them, with a condition on each write
that is exact for both. -/
theorem always_and_related_iff {R : State → State → Prop} (refl : ∀ state, R state state)
    (trans : ∀ first second third, R first second → R second third → R first third)
    (exact_write : ∀ state change, P state →
      (P (apply state change) ∧ R state (apply state change) ↔ fits state change))
    (start : Session State Write) (moments : List (Moment Request)) :
    Always (step apply program) (fun session => P session.state) start moments ∧
        Related (step apply program) (fun earlier later => R earlier.state later.state) start
          moments ↔
      P start.state ∧ EachStep (step apply program) (WriteMeets fits) start moments := by
  rw [related_iff_writesMeet refl trans]
  constructor
  · intro law
    exact ⟨law.1.start, (always_and_writesMeet_iff exact_write law.1.start moments).mp law⟩
  · rintro ⟨initial, each⟩
    exact (always_and_writesMeet_iff exact_write initial moments).mpr each

/-- A request that nothing interrupts ends in the state of its program run alone. -/
theorem exists_advances (session : Session State Write) (client : Nat) :
    ∃ count, after (step apply program) session (List.replicate count (.advance client)) =
      { state := (session.pending client).alone apply session.state
        pending := Function.update session.pending client .done } := by
  generalize left : session.pending client = rest
  induction rest generalizing session with
  | done =>
      refine ⟨0, ?_⟩
      rw [← left, Function.update_eq_self, left]
      rfl
  | read next ih =>
      obtain ⟨count, ends⟩ := ih session.state
        { session with pending := Function.update session.pending client (next session.state) }
        (Function.update_self ..)
      refine ⟨count + 1, ?_⟩
      rw [List.replicate_succ, after_cons, step]
      simp only [left]
      simpa [Program.alone] using ends
  | write change next ih =>
      obtain ⟨count, ends⟩ := ih
        { state := apply session.state change
          pending := Function.update session.pending client next }
        (Function.update_self ..)
      refine ⟨count + 1, ?_⟩
      rw [List.replicate_succ, after_cons, step]
      simp only [left]
      simpa [Program.alone] using ends

/-- A client that nothing interrupts reaches the state of its request run alone. -/
theorem exists_uninterrupted {session : Session State Write} {client : Nat}
    (idle : session.pending client = .done) (request : Request) :
    ∃ count, (after (step apply program) session
        (.arrive client request :: List.replicate count (.advance client))).state =
      (program request).alone apply session.state := by
  have arrived : step apply program session (.arrive client request) =
      { session with pending := Function.update session.pending client (program request) } := by
    rw [step]
    simp only [idle]
  obtain ⟨count, ends⟩ : ∃ count, after (step apply program)
      (step apply program session (.arrive client request))
      (List.replicate count (.advance client)) = _ := exists_advances _ client
  refine ⟨count, ?_⟩
  rw [after_cons, ends, arrived]
  dsimp only
  rw [Function.update_self]

end Schedules

end Foundation.Interleaving
