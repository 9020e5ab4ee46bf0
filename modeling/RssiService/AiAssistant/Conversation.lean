import RssiService.AiAssistant.MappingGrowth

/-!
# A conversation with the assistant

The history is stored with the real values put back and pseudonymized again for
each reply.  The table of the conversation is stored encrypted with an expiry;
once it cannot be loaded it is rebuilt from the current data of the tenant, and
a value that is no longer collected goes out as the history spells it.
-/

namespace RssiService.AiAssistant

open Foundation.Replacement Foundation.Run Python

inductive Role where
  | user
  | assistant
  deriving DecidableEq, Repr

structure Message where
  role : Role
  content : String
  deriving DecidableEq, Repr

/-- The stored table of a conversation.  It is readable while the encryption
key that sealed it is in use. -/
structure MappingRow where
  mapping : Mapping
  expiresAt : Nat
  readable : Bool

/-- What one call to the model is built from. -/
structure Payload where
  mapping : Mapping
  context : Json
  history : List Message

/-- The context as it is sent. -/
def Payload.sentContext (payload : Payload) : Json :=
  pseudonymizeValue payload.mapping payload.context

/-- The messages as they are sent. -/
def Payload.sentMessages (payload : Payload) : List Message :=
  payload.history.map fun message =>
    { message with content := pseudonymizeText message.content payload.mapping }

structure Conversation where
  tenant : TenantData
  messages : List Message
  mappingRow : Option MappingRow
  /-- Every payload sent so far, oldest first. -/
  sent : List Payload

def assistantHistoryWindow : Nat := 20

/-- The stored table, unless it has expired or can no longer be decrypted. -/
def MappingRow.load (row : MappingRow) (now : Nat) : Option Mapping :=
  if row.expiresAt < now then none
  else if row.readable then some row.mapping
  else none

/-- The table a reply starts from: the stored one, or none of it. -/
def Conversation.startingMapping (conversation : Conversation) (now : Nat) : Mapping :=
  (conversation.mappingRow.bind fun row => row.load now).getD Mapping.empty

/-- The table of a reply: the stored one, extended with the current data. -/
def Conversation.getOrCreateMapping (unicode : Unicode) (conversation : Conversation) (now : Nat) :
    Option Mapping :=
  collectSensitiveValues unicode conversation.tenant (conversation.startingMapping now)

/-- The last messages, oldest first. -/
def Conversation.window (conversation : Conversation) : List Message :=
  conversation.messages.drop (conversation.messages.length - assistantHistoryWindow)

/-- Answer the conversation.  The table is stored before the call, and the reply
of the model, when it comes, is stored with the real values put back. -/
def Conversation.generateReply (unicode : Unicode) (ttl : Nat) (conversation : Conversation)
    (now : Nat) (answer : Option String) : Conversation :=
  match conversation.getOrCreateMapping unicode now with
  | none => conversation
  | some mapping =>
      let payload : Payload :=
        { mapping
          context := buildAssistantContext conversation.tenant
          history := conversation.window }
      let called : Conversation :=
        { conversation with
          mappingRow := some { mapping, expiresAt := now + ttl, readable := true }
          sent := conversation.sent ++ [payload] }
      match answer with
      | none => called
      | some text =>
          { called with
            messages := called.messages ++
              [{ role := .assistant, content := rehydrateText text mapping }] }

/-- What happens to a conversation: the user writes, the data of the tenant
change, the encryption key is replaced, or a reply is generated. -/
inductive Event where
  | userMessage (text : String)
  | tenantChanged (tenant : TenantData)
  | keyReplaced
  | reply (now : Nat) (answer : Option String)

def Conversation.step (unicode : Unicode) (ttl : Nat) (conversation : Conversation) :
    Event → Conversation
  | .userMessage text =>
      { conversation with
        messages := conversation.messages ++ [{ role := .user, content := text }] }
  | .tenantChanged tenant => { conversation with tenant := tenant }
  | .keyReplaced =>
      { conversation with
        mappingRow := conversation.mappingRow.map fun row => { row with readable := false } }
  | .reply now answer => conversation.generateReply unicode ttl now answer

/-! ## What a payload shows -/

/-- The texts a payload is made of, before pseudonymization. -/
def Payload.texts (payload : Payload) : List String :=
  payload.context.strings ++ payload.history.map Message.content

/-- The texts of a payload as they are sent. -/
def Payload.sentTexts (payload : Payload) : List String :=
  payload.sentContext.strings ++ payload.sentMessages.map Message.content

/-- A placeholder stands for the value somewhere in the payload. -/
def Payload.Replaces (payload : Payload) (value : String) : Prop :=
  ∃ text ∈ payload.texts, .replaced value.toList ∈ payload.mapping.cut text

/-- The value is sent in clear somewhere in the payload, outside every inserted
placeholder. -/
def Payload.Reveals (payload : Payload) (value : String) : Prop :=
  ∃ text ∈ payload.texts, InClear (payload.mapping.cut text) value.toList

/-- What is sent is the cut of each text, kept symbols as they are and replaced
values as their placeholders. -/
theorem sentTexts_eq (payload : Payload) :
    payload.sentTexts = payload.texts.map fun text =>
      String.ofList (render payload.mapping.token (payload.mapping.cut text)) := by
  unfold Payload.sentTexts Payload.texts Payload.sentContext Payload.sentMessages
  rw [strings_pseudonymizeValue, List.map_append, List.map_map, List.map_map]
  simp only [pseudonymizeText_eq, Function.comp_def]

/-- A brace-free value read in a sent text is inside one placeholder, or the
payload reveals it. -/
theorem reveals_of_occurrence {payload : Payload} {value text : String}
    (shaped : ∀ entry ∈ payload.mapping.entries, IsPlaceholder entry.2)
    (braceFree : BraceFree value) (member : text ∈ payload.texts) {before after : List Char}
    (occurs : render payload.mapping.token (payload.mapping.cut text) =
      before ++ value.toList ++ after) :
    InsideToken payload.mapping.token (payload.mapping.cut text) before value.toList after ∨
      payload.Reveals value := by
  have fenced : ∀ origin, .replaced origin ∈ payload.mapping.cut text →
      Fenced (payload.mapping.token origin) value.toList := by
    intro origin inside
    have known := (payload.mapping.factors_cut text).known_of_replaced inside
    exact fenced_placeholder (shaped _ (Mapping.get_mem known)) braceFree
  rcases occurrence_cases fenced occurs with concealed | kept
  · exact Or.inl concealed
  · exact Or.inr ⟨text, member, kept.inClear⟩

/-- No value that an earlier payload replaced is revealed by a later one. -/
def Conversation.Concealed (conversation : Conversation) : Prop :=
  conversation.sent.Pairwise fun earlier later =>
    ∀ value, earlier.Replaces value → ¬ later.Reveals value

/-! ## The values in force -/

/-- The values a reply replaces: those of a table that can still be loaded, and
those collected from the current data. -/
def Conversation.InForce (unicode : Unicode) (conversation : Conversation) (now : Nat)
    (value : String) : Prop :=
  (∃ row ∈ conversation.mappingRow, now ≤ row.expiresAt ∧ row.readable ∧ value ∈ row.mapping) ∨
    (value ≠ "" ∧ ∃ values ∈ sensitiveValues unicode conversation.tenant,
      ∃ entry ∈ values, strip entry.1 = value)

/-- The value can be read in the text where the values in force leave it. -/
def Exposed (InForce : String → Prop) (text value : String) : Prop :=
  ∃ pieces, Factors (fun known => InForce (String.ofList known)) text.toList pieces ∧
    InClear pieces value.toList

/-- What a reply has to meet: a value replaced before and no longer in force
cannot be read in the context nor in the messages to send. -/
def Conversation.KeepsSecrets (unicode : Unicode) (conversation : Conversation) : Event → Prop
  | .reply now _ =>
      (sensitiveValues unicode conversation.tenant).isSome →
        ∀ earlier ∈ conversation.sent, ∀ value, earlier.Replaces value →
          ¬ conversation.InForce unicode now value →
            ∀ text ∈ (buildAssistantContext conversation.tenant).strings ++
                conversation.window.map Message.content,
              ¬ Exposed (conversation.InForce unicode now) text value
  | _ => True

section Replies

variable {unicode : Unicode} {conversation : Conversation} {now : Nat}

theorem mem_startingMapping {value : String} :
    value ∈ conversation.startingMapping now ↔
      ∃ row ∈ conversation.mappingRow,
        now ≤ row.expiresAt ∧ row.readable ∧ value ∈ row.mapping := by
  unfold Conversation.startingMapping
  cases stored : conversation.mappingRow with
  | none => simp [Mapping.mem_def, Mapping.keys, Mapping.empty]
  | some row =>
      have absent : value ∉ Mapping.empty := by simp [Mapping.mem_def, Mapping.keys, Mapping.empty]
      rcases Nat.lt_or_ge row.expiresAt now with expired | valid
      · simp [MappingRow.load, expired, absent]
      · have current : ¬ row.expiresAt < now := Nat.not_lt.mpr valid
        cases readable : row.readable with
        | true => simp [MappingRow.load, current, readable, valid]
        | false => simp [MappingRow.load, current, readable, absent]

/-- The table of a reply holds exactly the values in force. -/
theorem mem_getOrCreateMapping {mapping : Mapping}
    (built : conversation.getOrCreateMapping unicode now = some mapping) {value : String} :
    value ∈ mapping ↔ conversation.InForce unicode now value := by
  unfold Conversation.getOrCreateMapping collectSensitiveValues at built
  obtain ⟨values, collected, rfl⟩ := Option.map_eq_some_iff.mp built
  rw [mem_addValues, mem_startingMapping]
  simp [Conversation.InForce, collected]

theorem getOrCreateMapping_isSome :
    (conversation.getOrCreateMapping unicode now).isSome =
      (sensitiveValues unicode conversation.tenant).isSome := by
  simp [Conversation.getOrCreateMapping, collectSensitiveValues]

/-- A text exposes a value exactly when its cut by the table of the reply leaves
the value in clear. -/
theorem inClear_cut_iff {mapping : Mapping}
    (built : conversation.getOrCreateMapping unicode now = some mapping) (text value : String) :
    InClear (mapping.cut text) value.toList ↔
      Exposed (conversation.InForce unicode now) text value := by
  have same_values : mapping.Known =
      fun known => conversation.InForce unicode now (String.ofList known) := by
    funext known
    exact propext (mem_getOrCreateMapping built)
  have factors := mapping.factors_cut text
  rw [same_values] at factors
  constructor
  · intro clear
    exact ⟨mapping.cut text, factors, clear⟩
  · rintro ⟨pieces, other, clear⟩
    rw [factors.unique pieces other]
    exact clear

/-- What a payload built by the reply reveals. -/
theorem reveals_iff {payload : Payload}
    (built : conversation.getOrCreateMapping unicode now = some payload.mapping) (value : String) :
    payload.Reveals value ↔
      ∃ text ∈ payload.texts, Exposed (conversation.InForce unicode now) text value := by
  unfold Payload.Reveals
  simp only [inClear_cut_iff built]

/-- A value in force is never exposed. -/
theorem not_exposed_of_inForce {mapping : Mapping}
    (built : conversation.getOrCreateMapping unicode now = some mapping) {value : String}
    (inForce : conversation.InForce unicode now value) (text : String) :
    ¬ Exposed (conversation.InForce unicode now) text value := by
  have member := (mem_getOrCreateMapping built).mpr inForce
  rw [← inClear_cut_iff built]
  refine (mapping.factors_cut text).not_inClear (Mapping.known_toList.mpr member) ?_
  intro empty
  exact Mapping.ne_empty_of_mem member (String.toList_eq_nil_iff.mp empty)

theorem sent_generateReply {mapping : Mapping} {ttl : Nat} {answer : Option String}
    (built : conversation.getOrCreateMapping unicode now = some mapping) :
    (conversation.generateReply unicode ttl now answer).sent =
      conversation.sent ++
        [{ mapping
           context := buildAssistantContext conversation.tenant
           history := conversation.window }] := by
  unfold Conversation.generateReply
  rw [built]
  cases answer <;> rfl

end Replies

/-- A step keeps the secrets of the earlier payloads exactly when it meets its
condition. -/
theorem concealed_step_iff {unicode : Unicode} {ttl : Nat} {conversation : Conversation}
    (event : Event) (concealed : conversation.Concealed) :
    (conversation.step unicode ttl event).Concealed ↔ conversation.KeepsSecrets unicode event := by
  cases event with
  | userMessage text => exact iff_of_true concealed trivial
  | tenantChanged tenant => exact iff_of_true concealed trivial
  | keyReplaced => exact iff_of_true concealed trivial
  | reply now answer =>
      simp only [Conversation.step, Conversation.KeepsSecrets]
      have loaded : (conversation.getOrCreateMapping unicode now).isSome =
          (sensitiveValues unicode conversation.tenant).isSome := getOrCreateMapping_isSome
      rw [← loaded]
      cases built : conversation.getOrCreateMapping unicode now with
      | none =>
          have unchanged : conversation.generateReply unicode ttl now answer = conversation := by
            unfold Conversation.generateReply
            rw [built]
          rw [unchanged]
          exact iff_of_true concealed (fun impossible => by cases impossible)
      | some mapping =>
          unfold Conversation.Concealed
          rw [sent_generateReply built, List.pairwise_append]
          simp only [List.pairwise_cons, List.not_mem_nil, false_implies, implies_true,
            List.Pairwise.nil, true_and, List.mem_singleton, forall_eq, Option.isSome_some,
            true_implies]
          constructor
          · rintro ⟨_, apart⟩ earlier member value replaced _ text inside exposed
            exact apart earlier member value replaced
              ((reveals_iff built value).mpr ⟨text, inside, exposed⟩)
          · intro kept
            refine ⟨concealed, ?_⟩
            intro earlier member value replaced revealed
            obtain ⟨text, inside, exposed⟩ := (reveals_iff built value).mp revealed
            rcases em (conversation.InForce unicode now value) with inForce | forgotten
            · exact not_exposed_of_inForce built inForce text exposed
            · exact kept earlier member value replaced forgotten text inside exposed

/-- Along any history of a conversation no replaced value is ever revealed
later, exactly when no reply exposes a value it has forgotten. -/
theorem conversation_concealed_iff (unicode : Unicode) (ttl : Nat) (conversation : Conversation)
    (concealed : conversation.Concealed) (events : List Event) :
    Always (Conversation.step unicode ttl) Conversation.Concealed conversation events ↔
      EachStep (Conversation.step unicode ttl) (Conversation.KeepsSecrets unicode) conversation
        events :=
  always_iff_eachStep_of_start (fun _ event concealed => concealed_step_iff event concealed)
    concealed events

/-! ## A member who left -/

/-- A tenant with the given members and nothing else. -/
def tenantOf (members : List Member) : TenantData where
  name := "Acme"
  sector := ""
  headcount := none
  scores := none
  members := members
  assets := []
  alerts := []
  findings := []

def departure : Conversation where
  tenant := tenantOf [{ firstName := "Jean", lastName := "Martin", email := "jean@acme.fr" }]
  messages := [{ role := .user, content := "Jean Martin est parti" }]
  mappingRow := none
  sent := []

/-- The member leaves, and the stored table expires before the second reply. -/
def departureEvents : List Event :=
  [.reply 0 none, .tenantChanged (tenantOf []), .reply 100 none]

theorem departure_reveals :
    departure.Concealed ∧
      ¬ Always (Conversation.step plainUnicode 24) Conversation.Concealed departure
        departureEvents := by
  refine ⟨List.Pairwise.nil, ?_⟩
  intro always
  have apart := List.pairwise_iff_getElem.mp always.last 0 1 (by decide +kernel)
    (by decide +kernel) (by omega) "Jean Martin"
  refine apart ⟨"Jean Martin est parti", by decide +kernel, by decide +kernel⟩
    ⟨"Jean Martin est parti", by decide +kernel, [], " est parti".toList.map .kept,
      by decide +kernel⟩

theorem conversation_concealed_iff_departure :
    Always (Conversation.step plainUnicode 24) Conversation.Concealed departure departureEvents ↔
      EachStep (Conversation.step plainUnicode 24) (Conversation.KeepsSecrets plainUnicode) departure
        departureEvents :=
  conversation_concealed_iff plainUnicode 24 departure List.Pairwise.nil departureEvents

end RssiService.AiAssistant
