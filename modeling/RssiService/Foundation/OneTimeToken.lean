import Mathlib.Data.List.Nodup
import RssiService.Foundation.Interleaving

/-!
# Tokens that are used once

A request reads that a token is not spent, and marks it as spent in a later
write.  Over every schedule, no token is marked twice exactly where each mark
still finds its token unspent; where the requests follow one another, it does.
-/

namespace Foundation

open Foundation.Run Foundation.Interleaving

/-- What the writes of a store do to its tokens, and the tokens marked so far. -/
structure TokenRegister {State Write : Type*} (Token : Type*) (apply : State → Write → State) where
  marks : Write → Option Token
  Spent : State → Token → Prop
  marked : State → List Token
  spent_apply : ∀ state change token,
    Spent (apply state change) token ↔ Spent state token ∨ marks change = some token
  marked_apply : ∀ state change,
    marked (apply state change) = marked state ++ (marks change).toList

namespace TokenRegister

variable {State Write Token Request : Type*} {apply : State → Write → State}
  (register : TokenRegister Token apply)

/-- Whatever it reads, a program marks tokens that are known to it, each once: at
first, or since a read found them unspent. -/
def Marks : Program State Write → (Token → Prop) → Prop
  | .done, _ => True
  | .read next, Known =>
      ∀ state, Marks (next state) fun token => Known token ∨ ¬ register.Spent state token
  | .write change next, Known =>
      (∀ token, register.marks change = some token → Known token) ∧
        Marks next fun token => Known token ∧ register.marks change ≠ some token

theorem Marks.mono {register : TokenRegister Token apply} {rest : Program State Write}
    {Known More : Token → Prop} (marks : register.Marks rest Known)
    (more : ∀ token, Known token → More token) : register.Marks rest More := by
  induction rest generalizing Known More with
  | done => trivial
  | read next ih =>
      intro state
      exact ih state (marks state) fun token => Or.imp_left (more token)
  | write change next ih =>
      exact ⟨fun token mine => more token (marks.1 token mine),
        ih marks.2 fun token => And.imp_left (more token)⟩

theorem Marks.done {register : TokenRegister Token apply} {Known : Token → Prop} :
    register.Marks .done Known := trivial

/-- A read keeps what is known. -/
theorem Marks.read {register : TokenRegister Token apply} {next : State → Program State Write}
    {Known : Token → Prop} (marks : ∀ state, register.Marks (next state) Known) :
    register.Marks (.read next) Known :=
  fun state => (marks state).mono fun _ => Or.inl

theorem Marks.write_of_none {register : TokenRegister Token apply} {change : Write}
    {next : Program State Write} {Known : Token → Prop} (marksNone : register.marks change = none)
    (marks : register.Marks next Known) : register.Marks (.write change next) Known := by
  rw [Marks, marksNone]
  refine ⟨by rintro token ⟨⟩, marks.mono fun token known => ⟨known, ?_⟩⟩
  rintro ⟨⟩

/-- A mark of a known token. -/
theorem Marks.write_of_some {register : TokenRegister Token apply} {change : Write}
    {next : Program State Write} {Known : Token → Prop} {token : Token}
    (marksToken : register.marks change = some token) (known : Known token)
    (marks : register.Marks next fun other => Known other ∧ token ≠ other) :
    register.Marks (.write change next) Known := by
  rw [Marks, marksToken]
  refine ⟨?_, marks.mono fun other => And.imp_right fun apart same => apart (Option.some.inj same)⟩
  rintro other ⟨⟩
  exact known

/-- A mark finds its token unspent. -/
def FindsUnspent (state : State) (change : Write) : Prop :=
  ∀ token, register.marks change = some token → ¬ register.Spent state token

/-- The marked tokens are spent. -/
def Recorded (state : State) : Prop :=
  ∀ token ∈ register.marked state, register.Spent state token

/-- Tokens spent since they were known have been marked. -/
def Settled (state : State) (Known : Token → Prop) : Prop :=
  ∀ token, Known token → register.Spent state token → token ∈ register.marked state

section Writes

variable {register} {state : State} {change : Write} {Known : Token → Prop}

theorem recorded_apply (recorded : register.Recorded state) :
    register.Recorded (apply state change) := by
  intro token listed
  rw [register.marked_apply, List.mem_append, Option.mem_toList] at listed
  rw [register.spent_apply]
  exact listed.imp_left (recorded token)

theorem settled_apply (settled : register.Settled state Known) :
    register.Settled (apply state change) Known := by
  intro token known spent
  rw [register.marked_apply, List.mem_append, Option.mem_toList]
  rcases (register.spent_apply state change token).mp spent with before | marks
  · exact Or.inl (settled token known before)
  · exact Or.inr marks

/-- What one mark preserves. -/
theorem nodup_marked_apply_iff (recorded : register.Recorded state)
    (settled : register.Settled state Known)
    (known : ∀ token, register.marks change = some token → Known token)
    (once : (register.marked state).Nodup) :
    (register.marked (apply state change)).Nodup ↔ register.FindsUnspent state change := by
  rw [register.marked_apply, FindsUnspent]
  cases marks : register.marks change with
  | none =>
      rw [Option.toList_none, List.append_nil]
      exact iff_of_true once (by rintro token ⟨⟩)
  | some token =>
      rw [Option.toList_some, ← List.concat_eq_append, List.nodup_concat]
      constructor
      · rintro ⟨new, _⟩ other ⟨rfl⟩ spent
        exact new (settled token (known token marks) spent)
      · intro unspent
        exact ⟨fun listed => unspent token rfl (recorded token listed), once⟩

end Writes

/-! ## Schedules -/

section Schedules

variable {register} {program : Request → Program State Write} {session : Session State Write}

/-- The marks are recorded, and the tokens that a request knows are settled. -/
structure Sound (register : TokenRegister Token apply) (session : Session State Write) : Prop where
  recorded : register.Recorded session.state
  settled : ∀ client, ∃ Known, register.Marks (session.pending client) Known ∧
    register.Settled session.state Known

theorem Sound.update {state : State} {client : Nat} {rest : Program State Write}
    (recorded : register.Recorded state)
    (others : ∀ other, ∃ Known, register.Marks (session.pending other) Known ∧
      register.Settled state Known)
    {Known : Token → Prop} (marks : register.Marks rest Known)
    (settled : register.Settled state Known) :
    register.Sound ⟨state, Function.update session.pending client rest⟩ := by
  refine ⟨recorded, fun other => ?_⟩
  dsimp only
  rcases eq_or_ne other client with rfl | apart
  · rw [Function.update_self]
    exact ⟨Known, marks, settled⟩
  · rw [Function.update_of_ne apart]
    exact others other

theorem sound_step (careful : ∀ request, register.Marks (program request) fun _ => False)
    (moment : Moment Request) (sound : register.Sound session) :
    register.Sound (Interleaving.step apply program session moment) := by
  cases moment with
  | arrive client request =>
      rw [Interleaving.step]
      split
      · refine Sound.update sound.recorded sound.settled (careful request) ?_
        rintro token ⟨⟩
      · exact sound
  | advance client =>
      obtain ⟨Known, marks, settled⟩ := sound.settled client
      rw [Interleaving.step]
      cases left : session.pending client with
      | done => exact sound
      | read next =>
          rw [left] at marks
          refine Sound.update sound.recorded sound.settled (marks session.state) ?_
          rintro token (known | unspent) spent
          · exact settled token known spent
          · exact absurd spent unspent
      | write change next =>
          rw [left] at marks
          refine Sound.update (recorded_apply sound.recorded) (fun other => ?_) marks.2 ?_
          · obtain ⟨Other, mine, before⟩ := sound.settled other
            exact ⟨Other, mine, settled_apply before⟩
          · rintro token ⟨known, _⟩
            exact settled_apply settled token known

theorem nodup_marked_step_iff (moment : Moment Request) (sound : register.Sound session)
    (once : (register.marked session.state).Nodup) :
    (register.marked (Interleaving.step apply program session moment).state).Nodup ↔
      WriteMeets register.FindsUnspent session moment := by
  cases moment with
  | arrive client request =>
      refine iff_of_true ?_ trivial
      rw [Interleaving.step]
      split <;> exact once
  | advance client =>
      obtain ⟨Known, marks, settled⟩ := sound.settled client
      rw [Interleaving.step, WriteMeets]
      cases left : session.pending client with
      | done => exact iff_of_true once trivial
      | read next => exact iff_of_true once trivial
      | write change next =>
          rw [left] at marks
          exact nodup_marked_apply_iff sound.recorded settled marks.1 once

/-- Over every schedule, no token is marked twice exactly where each mark finds its
token unspent. -/
theorem nodup_marked_iff (careful : ∀ request, register.Marks (program request) fun _ => False)
    {start : State} (fresh : register.marked start = []) (moments : List (Moment Request)) :
    Always (Interleaving.step apply program) (fun session => (register.marked session.state).Nodup)
        (.start start) moments ↔
      EachStep (Interleaving.step apply program) (WriteMeets register.FindsUnspent)
        (.start start) moments := by
  have none (P : Token → Prop) : ∀ token ∈ register.marked start, P token := by
    rw [fresh]
    rintro token ⟨⟩
  refine always_iff_eachStep (I := register.Sound) (fun _ moment => sound_step careful moment)
    (fun _ moment sound once => nodup_marked_step_iff moment sound once) ?_ ?_ moments
  · refine ⟨none _, fun _ => ⟨fun _ => False, trivial, ?_⟩⟩
    rintro token ⟨⟩
  · show (register.marked start).Nodup
    rw [fresh]
    exact List.nodup_nil

end Schedules

/-! ## One request after another -/

section Alone

variable {register} {program : Request → Program State Write}

/-- A program that nothing interrupts marks unspent tokens only. -/
theorem nodup_marked_alone {rest : Program State Write} {state : State} {Known : Token → Prop}
    (marks : register.Marks rest Known) (unspent : ∀ token, Known token → ¬ register.Spent state token)
    (recorded : register.Recorded state) (once : (register.marked state).Nodup) :
    register.Recorded (rest.alone apply state) ∧
      (register.marked (rest.alone apply state)).Nodup := by
  induction rest generalizing state Known with
  | done => exact ⟨recorded, once⟩
  | read next ih =>
      refine ih state (marks state) ?_ recorded once
      rintro token (known | found)
      · exact unspent token known
      · exact found
  | write change next ih =>
      refine ih marks.2 ?_ (recorded_apply recorded) ?_
      · rintro token ⟨known, other⟩ spent
        rcases (register.spent_apply state change token).mp spent with before | now
        · exact unspent token known before
        · exact other now
      · have settled : register.Settled state Known :=
          fun token known spent => absurd spent (unspent token known)
        refine (nodup_marked_apply_iff recorded settled marks.1 once).mpr ?_
        exact fun token mine => unspent token (marks.1 token mine)

/-- Requests that follow one another mark no token twice. -/
theorem nodup_marked_of_sequence
    (careful : ∀ request, register.Marks (program request) fun _ => False)
    {start : State} (fresh : register.marked start = []) (requests : List Request) :
    (register.marked
      (requests.foldl (fun state request => (program request).alone apply state) start)).Nodup := by
  have recorded : register.Recorded start := by
    rw [Recorded, fresh]
    rintro token ⟨⟩
  have once : (register.marked start).Nodup := fresh ▸ List.nodup_nil
  clear fresh
  induction requests generalizing start with
  | nil => exact once
  | cons request rest ih =>
      obtain ⟨later, still⟩ := nodup_marked_alone (careful request) (by rintro token ⟨⟩) recorded once
      exact ih later still

end Alone

end TokenRegister

end Foundation
