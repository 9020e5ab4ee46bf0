import RssiService.Python.Json

/-!
# Masking a provider payload

The values of the keys recognised as secret are masked before a payload is
stored.  The walk masks a scalar that is itself the value of a secret key; a
scalar reached through a list or through an inner key is stored as it came.
-/

namespace RssiService.ThreatIntelligence

open Python

/-! ## Secret keys and masks -/

def exactSecretFields : List String := ["val", "ccn", "ccx", "cwa"]

def secretKeyMarkers : List String :=
  ["password", "pass", "pwd", "secret", "token", "credential", "api_key", "apikey", "auth"]

def isSecretKey (unicode : Unicode) (key : String) : Bool :=
  let lowered := unicode.lower key
  exactSecretFields.contains lowered || secretKeyMarkers.any (contains lowered)

def bullet : Char := '•'

/-- Six bullets and the last two characters. -/
def maskText (text : List Char) : List Char :=
  List.replicate 6 bullet ++ text.drop (text.length - 2)

def maskSecretValue (unicode : Unicode) (value : Json) : String :=
  String.ofList (maskText (value.toStr unicode).toList)

/-! ## The walk -/

/-- What the walk remembers of the first secret it meets. -/
structure MaskState where
  secretSeen : Bool
  firstMasked : String
  firstPlain : String
  deriving DecidableEq, Repr

def MaskState.note (state : MaskState) (masked plain : String) : MaskState :=
  if state.firstMasked = "" then { secretSeen := true, firstMasked := masked, firstPlain := plain }
  else { state with secretSeen := true }

/-- The value of one key, when it is a scalar. -/
def maskScalar (unicode : Unicode) (key : String) (value : Json) (state : MaskState) :
    Json × MaskState :=
  if isSecretKey unicode key && !value.isBlank then
    let masked := maskSecretValue unicode value
    (.str masked, state.note masked (value.toStr unicode))
  else (value, state)

mutual

def walk (unicode : Unicode) : Json → MaskState → Json × MaskState
  | .obj fields, state =>
      let (fields, state) := walkFields unicode fields state
      (.obj fields, state)
  | .arr items, state =>
      let (items, state) := walkItems unicode items state
      (.arr items, state)
  | value, state => (value, state)

def walkItems (unicode : Unicode) : List Json → MaskState → List Json × MaskState
  | [], state => ([], state)
  | item :: rest, state =>
      let (item, state) := walk unicode item state
      let (rest, state) := walkItems unicode rest state
      (item :: rest, state)

def walkFields (unicode : Unicode) :
    List (String × Json) → MaskState → List (String × Json) × MaskState
  | [], state => ([], state)
  | (key, value) :: rest, state =>
      let (value, state) :=
        if value.isContainer then walk unicode value state
        else maskScalar unicode key value state
      let (rest, state) := walkFields unicode rest state
      ((key, value) :: rest, state)

end

/-- The masked payload with what the walk remembers. -/
def maskPayload (unicode : Unicode) (payload : Json) : Json × MaskState :=
  walk unicode payload { secretSeen := false, firstMasked := "", firstPlain := "" }

/-! ## The scalar leaves of a payload -/

/-- A scalar leaf: whether some key above it is secret, whether it is itself the
value of a secret key, and its value. -/
structure Leaf where
  below : Bool
  direct : Bool
  value : Json

mutual

/-- The scalar leaves of a value, in order. -/
def leaves (unicode : Unicode) (below direct : Bool) : Json → List Leaf
  | .obj fields => leavesFields unicode below fields
  | .arr items => leavesItems unicode below items
  | value => [{ below, direct, value }]

def leavesItems (unicode : Unicode) (below : Bool) : List Json → List Leaf
  | [] => []
  | item :: rest => leaves unicode below false item ++ leavesItems unicode below rest

def leavesFields (unicode : Unicode) (below : Bool) : List (String × Json) → List Leaf
  | [] => []
  | (key, value) :: rest =>
      leaves unicode (below || isSecretKey unicode key) (isSecretKey unicode key) value ++
        leavesFields unicode below rest

end

/-- The leaves of a whole payload. -/
def payloadLeaves (unicode : Unicode) (payload : Json) : List Leaf :=
  leaves unicode false false payload

/-- What is stored in place of a leaf. -/
def Leaf.stored (unicode : Unicode) (leaf : Leaf) : Json :=
  if leaf.direct && !leaf.value.isBlank then .str (maskSecretValue unicode leaf.value)
  else leaf.value

/-- The text of the leaf can be read in what is stored in its place. -/
def AppearsInClear (unicode : Unicode) (value stored : Json) : Prop :=
  value.isBlank = false ∧ (value.toStr unicode).toList <:+: (stored.toStr unicode).toList

/-- No leaf below a secret key appears in clear at its place in the masked
payload. -/
def SecretsConcealed (unicode : Unicode) (payload : Json) : Prop :=
  ∀ pair ∈ (payloadLeaves unicode payload).zip
      (payloadLeaves unicode (maskPayload unicode payload).1),
    pair.1.below = true → ¬ AppearsInClear unicode pair.1.value pair.2.value

/-- A text that its own mask still shows: nothing, or one to six bullets, stands
before its last two characters. -/
def Legible (text : List Char) : Prop :=
  text.length ≤ 8 ∧ ∀ symbol ∈ text.take (text.length - 2), symbol = bullet

/-- What a payload has to meet: every non-blank leaf below a secret key is
itself the value of a secret key, and its mask does not show it. -/
def SecretsMaskable (unicode : Unicode) (payload : Json) : Prop :=
  ∀ leaf ∈ payloadLeaves unicode payload, leaf.below = true → leaf.value.isBlank = false →
    leaf.direct = true ∧ ¬ Legible (leaf.value.toStr unicode).toList

/-! ## The masked payload, leaf by leaf -/

section Leaves

variable {unicode : Unicode}

/-- A leaf as it is stored. -/
def Leaf.mask (unicode : Unicode) (leaf : Leaf) : Leaf :=
  { leaf with value := leaf.stored unicode }

theorem leaves_container {value : Json} (container : value.isContainer = true)
    (below direct : Bool) :
    leaves unicode below direct value = leaves unicode below false value := by
  cases value with
  | arr items => simp only [leaves]
  | obj fields => simp only [leaves]
  | null => cases container
  | bool value => cases container
  | int value => cases container
  | float text => cases container
  | str text => cases container

theorem leaves_scalar {value : Json} (scalar : value.isContainer = false) (below direct : Bool) :
    leaves unicode below direct value = [{ below, direct, value }] := by
  cases value with
  | arr items => cases scalar
  | obj fields => cases scalar
  | null => simp only [leaves]
  | bool value => simp only [leaves]
  | int value => simp only [leaves]
  | float text => simp only [leaves]
  | str text => simp only [leaves]

theorem isContainer_walk (value : Json) (state : MaskState) :
    (walk unicode value state).1.isContainer = value.isContainer := by
  cases value <;> rfl

/-- A masked scalar is the stored form of its leaf. -/
theorem leaves_maskScalar (key : String) {value : Json} (scalar : value.isContainer = false)
    (below : Bool) (state : MaskState) :
    leaves unicode below (isSecretKey unicode key) (maskScalar unicode key value state).1 =
      (leaves unicode below (isSecretKey unicode key) value).map (Leaf.mask unicode) := by
  rw [leaves_scalar scalar]
  simp only [List.map_cons, List.map_nil, Leaf.mask, Leaf.stored, maskScalar]
  split
  · exact leaves_scalar rfl below _
  · exact leaves_scalar scalar below _

theorem leaves_walkItems {items : List Json}
    (each : ∀ item ∈ items, ∀ below state,
      leaves unicode below false (walk unicode item state).1 =
        (leaves unicode below false item).map (Leaf.mask unicode)) (below : Bool)
    (state : MaskState) :
    leavesItems unicode below (walkItems unicode items state).1 =
      (leavesItems unicode below items).map (Leaf.mask unicode) := by
  induction items generalizing state with
  | nil => rfl
  | cons item rest ih =>
      have here := each item List.mem_cons_self below state
      have later := ih (fun other member => each other (List.mem_cons_of_mem _ member))
        (walk unicode item state).2
      simp only [walkItems, leavesItems, here, later, List.map_append]

theorem leaves_walkFields {fields : List (String × Json)}
    (each : ∀ field ∈ fields, ∀ below state,
      leaves unicode below false (walk unicode field.2 state).1 =
        (leaves unicode below false field.2).map (Leaf.mask unicode)) (below : Bool)
    (state : MaskState) :
    leavesFields unicode below (walkFields unicode fields state).1 =
      (leavesFields unicode below fields).map (Leaf.mask unicode) := by
  induction fields generalizing state with
  | nil => rfl
  | cons field rest ih =>
      obtain ⟨key, value⟩ := field
      have later := ih fun other member => each other (List.mem_cons_of_mem _ member)
      simp only [walkFields, leavesFields, List.map_append, later]
      refine congrArg (· ++ _) ?_
      cases container : value.isContainer with
      | false => exact leaves_maskScalar key container _ state
      | true =>
          have here := each (key, value) List.mem_cons_self
          have masked_container : (walk unicode value state).1.isContainer = true :=
            (isContainer_walk value state).trans container
          rw [if_pos rfl, leaves_container masked_container, leaves_container container]
          exact here _ state

/-- The leaves of the masked payload are the stored forms of the leaves of the
payload. -/
theorem leaves_walk (value : Json) (below : Bool) (state : MaskState) :
    leaves unicode below false (walk unicode value state).1 =
      (leaves unicode below false value).map (Leaf.mask unicode) := by
  induction value generalizing below state with
  | null => rfl
  | bool value => rfl
  | int value => rfl
  | float text => rfl
  | str text => rfl
  | arr items ih => exact leaves_walkItems ih below state
  | obj fields ih => exact leaves_walkFields ih below state

end Leaves

/-! ## The first secret -/

section FirstSecret

variable {unicode : Unicode}

/-- A secret has been seen exactly when its text and its mask are remembered. -/
structure MaskState.Coherent (state : MaskState) : Prop where
  plain : state.secretSeen = true ↔ state.firstPlain ≠ ""
  masked : state.secretSeen = true ↔ state.firstMasked ≠ ""

theorem maskSecretValue_ne_empty (value : Json) : maskSecretValue unicode value ≠ "" := by
  intro blank
  have texts := congrArg String.toList blank
  rw [maskSecretValue, String.toList_ofList, maskText] at texts
  cases texts

theorem MaskState.Coherent.note {state : MaskState} (coherent : state.Coherent)
    {masked plain : String} (maskedText : masked ≠ "") (plainText : plain ≠ "") :
    (state.note masked plain).Coherent := by
  rw [MaskState.note]
  split
  · exact ⟨iff_of_true rfl plainText, iff_of_true rfl maskedText⟩
  · rename_i seen
    have before := coherent.masked.mpr seen
    exact ⟨iff_of_true rfl (coherent.plain.mp before), iff_of_true rfl seen⟩

theorem coherent_maskScalar (key : String) {value : Json} (scalar : value.isContainer = false)
    (printed : value.Printed) {state : MaskState} (coherent : state.Coherent) :
    (maskScalar unicode key value state).2.Coherent := by
  rw [maskScalar]
  split
  · rename_i secret
    have present : value.isBlank = false := by simpa using (Bool.and_eq_true_iff.mp secret).2
    exact coherent.note (maskSecretValue_ne_empty value)
      (Json.toStr_ne_empty scalar present printed)
  · exact coherent

theorem coherent_walkItems {items : List Json}
    (each : ∀ item ∈ items, item.Printed → ∀ state : MaskState, state.Coherent →
      (walk unicode item state).2.Coherent)
    (printed : "" ∉ Json.floatsItems items) {state : MaskState} (coherent : state.Coherent) :
    (walkItems unicode items state).2.Coherent := by
  induction items generalizing state with
  | nil => exact coherent
  | cons item rest ih =>
      obtain ⟨here, later⟩ := not_or.mp (mt List.mem_append.mpr printed)
      exact ih (fun other member => each other (List.mem_cons_of_mem _ member)) later
        (each item List.mem_cons_self here state coherent)

theorem coherent_walkFields {fields : List (String × Json)}
    (each : ∀ field ∈ fields, field.2.Printed → ∀ state : MaskState, state.Coherent →
      (walk unicode field.2 state).2.Coherent)
    (printed : "" ∉ Json.floatsFields fields) {state : MaskState} (coherent : state.Coherent) :
    (walkFields unicode fields state).2.Coherent := by
  induction fields generalizing state with
  | nil => exact coherent
  | cons field rest ih =>
      obtain ⟨key, value⟩ := field
      obtain ⟨here, later⟩ := not_or.mp (mt List.mem_append.mpr printed)
      refine ih (fun other member => each other (List.mem_cons_of_mem _ member)) later ?_
      cases container : value.isContainer with
      | false => exact coherent_maskScalar key container here coherent
      | true => exact each (key, value) List.mem_cons_self here state coherent

theorem coherent_walk (value : Json) (printed : value.Printed) (state : MaskState)
    (coherent : state.Coherent) : (walk unicode value state).2.Coherent := by
  induction value generalizing state with
  | null => exact coherent
  | bool value => exact coherent
  | int value => exact coherent
  | float text => exact coherent
  | str text => exact coherent
  | arr items ih =>
      exact coherent_walkItems (fun item member here state => ih item member here state) printed
        coherent
  | obj fields ih =>
      exact coherent_walkFields (fun field member here state => ih field member here state) printed
        coherent

/-- A payload holds a secret exactly when the text of its first secret is kept. -/
theorem secretSeen_iff (unicode : Unicode) {payload : Json} (printed : payload.Printed) :
    (maskPayload unicode payload).2.secretSeen = true ↔
      (maskPayload unicode payload).2.firstPlain ≠ "" := by
  refine (coherent_walk payload printed _ ⟨?_, ?_⟩).plain
  · simp
  · simp

end FirstSecret

/-! ## What a mask shows -/

/-- A text before whose last two characters at most six bullets stand ends its
own mask. -/
theorem infix_maskText_of_legible {text : List Char} (legible : Legible text) :
    text <:+: maskText text := by
  obtain ⟨short, bullets⟩ := legible
  have head : text.take (text.length - 2) = List.replicate (text.length - 2) bullet :=
    List.eq_replicate_iff.mpr ⟨List.length_take_of_le (by omega), bullets⟩
  have six : List.replicate 6 bullet =
      List.replicate (6 - (text.length - 2)) bullet ++ List.replicate (text.length - 2) bullet := by
    rw [List.replicate_append_replicate]
    congr 1
    omega
  have mask : maskText text = List.replicate (6 - (text.length - 2)) bullet ++ text := by
    rw [maskText, six, ← head, List.append_assoc, List.take_append_drop]
  exact mask ▸ (List.suffix_append _ text).isInfix

theorem legible_of_infix_maskText {text : List Char} (shown : text <:+: maskText text) :
    Legible text := by
  obtain ⟨before, after, cut⟩ := shown
  have lengths := congrArg List.length cut
  simp only [maskText, List.length_append, List.length_replicate, List.length_drop] at lengths
  refine ⟨by omega, ?_⟩
  rcases Nat.lt_or_ge text.length 2 with short | long
  · have none : text.length - 2 = 0 := by omega
    simp [none]
  · -- what stands before the last two characters is covered by the bullets
    have covered : before ++ text.take (text.length - 2) <+: List.replicate 6 bullet := by
      have left : before ++ text.take (text.length - 2) <+: maskText text := by
        refine ⟨text.drop (text.length - 2) ++ after, ?_⟩
        rw [← cut, ← List.append_assoc, List.append_assoc before, List.take_append_drop]
      refine List.prefix_of_prefix_length_le left (List.prefix_append _ _) ?_
      simp only [List.length_append, List.length_take, List.length_replicate]
      omega
    intro symbol member
    have shown := covered.subset (List.mem_append_right before member)
    exact List.eq_of_mem_replicate shown

theorem infix_maskText_iff {text : List Char} : text <:+: maskText text ↔ Legible text :=
  ⟨legible_of_infix_maskText, infix_maskText_of_legible⟩

/-- A leaf that is not the value of a secret key appears in clear unless it is
blank, and the mask of a secret value shows the legible texts only. -/
theorem appearsInClear_stored_iff (unicode : Unicode) (leaf : Leaf) :
    AppearsInClear unicode leaf.value (leaf.stored unicode) ↔
      leaf.value.isBlank = false ∧
        (leaf.direct = true → Legible (leaf.value.toStr unicode).toList) := by
  refine and_congr_right fun present => ?_
  cases direct : leaf.direct with
  | false =>
      have stored : leaf.stored unicode = leaf.value := by simp [Leaf.stored, direct]
      rw [stored]
      exact iff_of_true (List.infix_refl _) (by rintro ⟨⟩)
  | true =>
      have stored : leaf.stored unicode = .str (maskSecretValue unicode leaf.value) := by
        simp [Leaf.stored, direct, present]
      rw [stored]
      simp only [Json.toStr, maskSecretValue, String.toList_ofList, infix_maskText_iff,
        forall_const]

/-- The secrets of a payload are concealed exactly when each of them is itself
the value of a secret key and has a text that its mask does not show. -/
theorem secretsConcealed_iff (unicode : Unicode) (payload : Json) :
    SecretsConcealed unicode payload ↔ SecretsMaskable unicode payload := by
  have masked : payloadLeaves unicode (maskPayload unicode payload).1 =
      (payloadLeaves unicode payload).map (Leaf.mask unicode) := leaves_walk payload false _
  rw [SecretsConcealed, SecretsMaskable, masked, ← List.map_prod_left_eq_zip, List.forall_mem_map]
  refine forall₂_congr fun leaf _ => imp_congr_right fun _ => ?_
  show ¬ AppearsInClear unicode leaf.value (leaf.stored unicode) ↔ _
  rw [appearsInClear_stored_iff, not_and, Classical.not_imp]

/-- A list below a secret key is stored as it came. -/
theorem token_list_in_clear :
    ¬ SecretsConcealed ⟨id, id, fun _ => true⟩ (.obj [("tokens", .arr [.str "hunter2"])]) := by
  have secret : isSecretKey ⟨id, id, fun _ => true⟩ "tokens" = true := by decide +kernel
  intro concealed
  let leaf : Leaf := { below := true, direct := false, value := .str "hunter2" }
  have stored : (leaf, leaf) ∈
      (payloadLeaves ⟨id, id, fun _ => true⟩ (.obj [("tokens", .arr [.str "hunter2"])])).zip
        (payloadLeaves ⟨id, id, fun _ => true⟩
          (maskPayload ⟨id, id, fun _ => true⟩ (.obj [("tokens", .arr [.str "hunter2"])])).1) := by
    simp [payloadLeaves, leaves, leavesFields, leavesItems, maskPayload, walk, walkFields, walkItems,
      Json.isContainer, secret, leaf]
  exact concealed (leaf, leaf) stored rfl ⟨rfl, List.infix_refl _⟩

end RssiService.ThreatIntelligence
