import RssiService.Foundation.Interleaving

/-!
# What a request relies on

A request that has looked at a condition goes on as if it still held, and a
request that never looks goes on as if it always did.  Each of them relies on
the condition until its last write that needs it.  While every condition that
some request relies on holds, no write is made without the condition it needs.
-/

namespace Foundation.Reliance

open Run Interleaving

variable {State Write Request Key Case : Type*}

/-- Conditions on the state, by keys, and the writes that need them. -/
structure Stakes (State Write Key : Type*) where
  clear : Key → State → Prop
  acts : Key → Write → Prop

namespace Stakes

variable (stakes : Stakes State Write Key)

/-- The program may make a write that needs the condition, although no read from
here on finds that it holds. -/
def Relies (key : Key) : Program State Write → Prop
  | .done => False
  | .read next => ∃ state, ¬stakes.clear key state ∧ Relies key (next state)
  | .write change next => stakes.acts key change ∨ Relies key next

/-- Every condition that some request relies on holds. -/
def Covered (session : Session State Write) : Prop :=
  ∀ client key, stakes.Relies key (session.pending client) → stakes.clear key session.state

/-- A request comes in where the conditions that it relies on hold, and after a
write those that are still relied on hold. -/
def KeepsCover (apply : State → Write → State) (program : Request → Program State Write)
    (session : Session State Write) : Moment Request → Prop
  | .arrive client request =>
      session.pending client = .done →
        ∀ key, stakes.Relies key (program request) → stakes.clear key session.state
  | .advance client =>
      match session.pending client with
      | .write change next =>
          ∀ other key, stakes.Relies key (Function.update session.pending client next other) →
            stakes.clear key (apply session.state change)
      | _ => True

/-- The write finds the conditions that it needs. -/
def Finds (state : State) (change : Write) : Prop :=
  ∀ key, stakes.acts key change → stakes.clear key state

variable {stakes} {apply : State → Write → State} {program : Request → Program State Write}
  {session : Session State Write} {key : Key}

theorem covered_start (state : State) : stakes.Covered (Session.start state) :=
  fun _ _ relies => relies.elim

/-- A program relies on a condition for a write that it makes. -/
theorem makes_of_relies {left : Program State Write} (relies : stakes.Relies key left) :
    ∃ change, left.Makes change ∧ stakes.acts key change := by
  induction left with
  | done => exact relies.elim
  | read next ih =>
      obtain ⟨state, _, later⟩ := relies
      obtain ⟨change, made, needs⟩ := ih state later
      exact ⟨change, ⟨state, made⟩, needs⟩
  | write change next ih =>
      rcases relies with needs | later
      · exact ⟨change, Or.inl rfl, needs⟩
      · obtain ⟨other, made, needs⟩ := ih later
        exact ⟨other, Or.inr made, needs⟩

/-- A read keeps the cover: what it does not find, the program relied on before. -/
theorem relies_read {next : State → Program State Write} {state : State}
    (covers : stakes.Relies key (.read next) → stakes.clear key state)
    (relies : stakes.Relies key (next state)) : stakes.clear key state := by
  by_contra missing
  exact missing (covers ⟨state, missing, relies⟩)

theorem covered_step_iff (covered : stakes.Covered session) (moment : Moment Request) :
    stakes.Covered (step apply program session moment) ↔
      stakes.KeepsCover apply program session moment := by
  cases moment with
  | arrive client request =>
      rw [step, KeepsCover]
      cases idle : session.pending client with
      | read next => exact iff_of_true covered fun busy => by cases busy
      | write change next => exact iff_of_true covered fun busy => by cases busy
      | done =>
          dsimp only
          constructor
          · intro later _ key relies
            refine later client key ?_
            change stakes.Relies key (Function.update session.pending client _ client)
            rwa [Function.update_self]
          · intro keeps other key relies
            change stakes.Relies key (Function.update session.pending client _ other) at relies
            rcases eq_or_ne other client with rfl | apart
            · rw [Function.update_self] at relies
              exact keeps rfl key relies
            · rw [Function.update_of_ne apart] at relies
              exact covered other key relies
  | advance client =>
      rw [step, KeepsCover]
      cases left : session.pending client with
      | done => exact iff_of_true covered trivial
      | write change next => exact Iff.rfl
      | read next =>
          refine iff_of_true ?_ trivial
          intro other key relies
          change stakes.Relies key (Function.update session.pending client _ other) at relies
          rcases eq_or_ne other client with rfl | apart
          · rw [Function.update_self] at relies
            refine relies_read ?_ relies
            intro before
            exact covered other key (by rwa [left])
          · rw [Function.update_of_ne apart] at relies
            exact covered other key relies

theorem always_covered_iff (start : Session State Write) (moments : List (Moment Request)) :
    Always (step apply program) stakes.Covered start moments ↔
      stakes.Covered start ∧
        EachStep (step apply program) (stakes.KeepsCover apply program) start moments :=
  always_iff_start_and_eachStep (fun _ moment covered => covered_step_iff covered moment)
    start moments

theorem writeMeets_of_covered (covered : stakes.Covered session) (moment : Moment Request) :
    WriteMeets stakes.Finds session moment := by
  cases moment with
  | arrive client request => trivial
  | advance client =>
      rw [WriteMeets]
      cases left : session.pending client with
      | done => trivial
      | read next => trivial
      | write change next =>
          intro key needs
          refine covered client key ?_
          rw [left]
          exact Or.inl needs

/-- While the cover is kept, every write fits that fits where it finds the conditions
that it needs. -/
theorem eachStep_writeMeets {fits : State → Write → Prop}
    (enough : ∀ state change, stakes.Finds state change → fits state change)
    {start : Session State Write} {moments : List (Moment Request)}
    (covered : stakes.Covered start)
    (keeps : EachStep (step apply program) (stakes.KeepsCover apply program) start moments) :
    EachStep (step apply program) (WriteMeets fits) start moments :=
  eachStep_of_always
    (fun _ moment covered => (writeMeets_of_covered covered moment).imp enough)
    ((always_covered_iff start moments).mpr ⟨covered, keeps⟩)

/-- What is relied on after a write was relied on before it. -/
theorem relies_of_write {client other : Nat} {change : Write} {next : Program State Write}
    (left : session.pending client = .write change next)
    (relies : stakes.Relies key (Function.update session.pending client next other)) :
    stakes.Relies key (session.pending other) := by
  rcases eq_or_ne other client with rfl | apart
  · rw [Function.update_self] at relies
    rw [left]
    exact Or.inr relies
  · rwa [Function.update_of_ne apart] at relies

/-- While the other requests have ended, a write keeps the cover if what comes after
it does. -/
theorem keepsCover_alone {client : Nat} {change : Write} {next : Program State Write}
    (left : session.pending client = .write change next)
    (idle : ∀ other, other ≠ client → session.pending other = .done)
    (own : ∀ key, stakes.Relies key next → stakes.clear key (apply session.state change)) :
    stakes.KeepsCover apply program session (.advance client) := by
  rw [KeepsCover, left]
  intro other key relies
  rcases eq_or_ne other client with rfl | apart
  · rw [Function.update_self] at relies
    exact own key relies
  · rw [Function.update_of_ne apart, idle other apart] at relies
    exact relies.elim

end Stakes

/-! ## Conditions that a case excuses -/

/-- Each condition split in two by a case: what is needed unless the case has come
about, and what is needed once it has.  A request that looks at the case relies on
one half only. -/
def Stakes.split (clear : Key → State → Prop) (ended : Case → State → Prop)
    (acts : Key → Case → Write → Prop) : Stakes State Write (Key × Case × Bool) where
  clear
    | (key, case, true), state => ended case state ∨ clear key state
    | (key, case, false), state => ¬ended case state ∨ clear key state
  acts
    | (key, case, _), change => acts key case change

theorem Stakes.split_clear {clear : Key → State → Prop} {ended : Case → State → Prop}
    {acts : Key → Case → Write → Prop} {state : State} {key : Key} {case : Case} {side : Bool}
    (holds : clear key state) : (Stakes.split clear ended acts).clear (key, case, side) state := by
  cases side with
  | true => exact Or.inr holds
  | false => exact Or.inr holds

theorem Stakes.not_clear_of_split {clear : Key → State → Prop} {ended : Case → State → Prop}
    {acts : Key → Case → Write → Prop} {state : State} {key : Key} {case : Case} {side : Bool}
    (missing : ¬(Stakes.split clear ended acts).clear (key, case, side) state) :
    ¬clear key state :=
  fun holds => missing (Stakes.split_clear holds)

/-- Both halves together are the condition. -/
theorem Stakes.clear_of_split {clear : Key → State → Prop} {ended : Case → State → Prop}
    {acts : Key → Case → Write → Prop} {state : State} {change : Write} (key : Key) (case : Case)
    (finds : (Stakes.split clear ended acts).Finds state change) (needs : acts key case change) :
    clear key state := by
  have early := finds (key, case, true) needs
  have late := finds (key, case, false) needs
  by_cases reached : ended case state
  · exact late.resolve_left fun missed => missed reached
  · exact early.resolve_left reached

end Foundation.Reliance
