import RssiService.ThreatIntelligence.IdentifierAudit

/-!
# What is served is what is traced

A response serves the identifier of a finding when a field about that finding
holds it, or when a restored text contains it.  The audit rows a request writes
are compared with the findings it served.
-/

namespace RssiService.ThreatIntelligence

open Foundation Python

/-! ## What a response serves -/

/-- The identifier fields of a response, each with the key of its finding. -/
def Body.identifiers : Body → List (Nat × String)
  | .findings _ results => results.map fun result => (result.id, result.identifier)
  | .finding result => [(result.id, result.identifier)]
  | .feed shown _ => shown.identifiers
  | .refused _ | .audits _ | .messages _ | .documents _ => []

/-- The texts of a response in which the assistant put the real values back. -/
def Body.texts : Body → List String
  | .feed _ synthesis => (synthesis.map ExposureSynthesis.content).toList
  | .messages results => results.map StoredMessage.content
  | .documents results => results.map GeneratedDocument.contentMarkdown
  | .refused _ | .findings _ _ | .finding _ | .audits _ => []

/-- The identifier of the finding stands in clear in one of the texts. -/
def BreachFinding.namedIn (finding : BreachFinding) (texts : List String) : Bool :=
  finding.identifierPlain ≠ "" && texts.any fun text => contains text finding.identifierPlain

def Body.serves (body : Body) (finding : BreachFinding) : Bool :=
  finding.identifierPlain ≠ "" && body.identifiers.contains (finding.id, finding.identifierPlain) ||
    finding.namedIn body.texts

/-- How many findings of the tenant of a member a response serves in clear. -/
def servedCount (portal : Portal) (tenant : Nat) (body : Body) : Nat :=
  portal.store.findings.rows.countP fun finding =>
    finding.tenant = tenant && body.serves finding

/-- The log grew by one row with this count, or not at all when it is zero. -/
def Records (before after : List IdentifierAccessAudit) (count : Nat) : Prop :=
  if count = 0 then after = before
  else ∃ row, row.identifierCount = count ∧ after = before ++ [row]

/-- A request leaves one audit row with the number of findings it served in
clear, and none when it served none. -/
def ExactlyAudited (backend : Backend) (portal : Portal) (now : Nat) (caller : Caller)
    (request : Request) : Prop :=
  let reply := respond backend portal now caller request
  let served := (caller.membership.map fun member =>
    servedCount portal member.tenant reply.2).getD 0
  Records portal.audits.rows reply.1.audits.rows served

/-! ## When the trace is exact -/

/-- The mask of the finding shows its whole identifier. -/
def BreachFinding.maskReveals (finding : BreachFinding) : Bool :=
  finding.identifierPlain ≠ "" && finding.identifierMasked = finding.identifierPlain

/-- The text of the synthesis of a tenant. -/
def synthesisTexts (portal : Portal) (tenant : Nat) : List String :=
  ((getExposureSynthesis portal.store tenant).map ExposureSynthesis.content).toList

/-- The feed of the tenant shows the finding one by one. -/
def isShown (backend : Backend) (portal : Portal) (tenant : Nat) (finding : BreachFinding) : Bool :=
  (visibleFindings (openFindings backend portal.toWorkspace tenant) finding.asset).any
    fun shown => shown.id = finding.id

/-- An open finding that is traced and not served: it is not shown, it has no
signal, and the synthesis does not name it. -/
def leftOut (backend : Backend) (portal : Portal) (tenant : Nat)
    (signals : List (Nat × List ReuseSignal)) (finding : BreachFinding) : Bool :=
  finding.tenant = tenant && finding.status = .open && finding.identifierPlain ≠ "" &&
    !isShown backend portal tenant finding && (signalsFor signals finding).isEmpty &&
    !finding.namedIn (synthesisTexts portal tenant)

/-- A treated or ignored finding that the synthesis still names. -/
def namedAfterwards (portal : Portal) (tenant : Nat) (finding : BreachFinding) : Bool :=
  finding.tenant = tenant && finding.status ≠ .open &&
    finding.namedIn (synthesisTexts portal tenant)

/-- No finding of the tenant is named in the texts. -/
def NoneNamed (portal : Portal) (tenant : Nat) (texts : List String) : Prop :=
  ∀ finding ∈ portal.store.findings, finding.tenant = tenant → finding.namedIn texts = false

/-- The feed of a viewer leaves out as many open findings as its synthesis names
closed ones; the feed of a reader shows no mask that reveals and names nothing. -/
def FeedAccountable (backend : Backend) (portal : Portal) (member : Membership)
    (signals : List (Nat × List ReuseSignal)) : Prop :=
  if canViewIdentifiers (some member.role) then
    portal.store.findings.rows.countP (leftOut backend portal member.tenant signals) =
      portal.store.findings.rows.countP (namedAfterwards portal member.tenant)
  else
    (∀ finding ∈ portal.store.findings, finding.tenant = member.tenant →
      isShown backend portal member.tenant finding = true → finding.maskReveals = false) ∧
    NoneNamed portal member.tenant (synthesisTexts portal member.tenant)

/-- What a request needs for its trace to be exact. -/
def Accountable (backend : Backend) (portal : Portal) (member : Membership) : Request → Prop
  | .listFindings query =>
      canViewIdentifiers (some member.role) = true ∨
        ∀ page, paginate (listFindings backend portal.toWorkspace member.tenant query.filter)
          query.page = some page → ∀ finding ∈ page, finding.maskReveals = false
  | .getFinding key =>
      canViewIdentifiers (some member.role) = true ∨
        ∀ finding, getFinding portal.store member.tenant key = some finding →
          finding.maskReveals = false
  | .patchFinding key status =>
      member.role = .reader ∨ requestedStatus status = none ∨
        ∀ finding, getFinding portal.store member.tenant key = some finding →
          finding.identifierPlain = ""
  | .exposureFeed =>
      SizesShown backend portal.toWorkspace member.tenant →
        ∀ signals, reuseByFinding backend portal.toWorkspace member.tenant = some signals →
          FeedAccountable backend portal member signals
  | .listAudits _ => True
  | .listMessages conversation page =>
      portal.aiEnabled.contains member.tenant = true →
        ∀ found, getConversation portal member.tenant conversation = some found →
          ∀ rows, paginate (listMessages portal member.tenant found.id) page = some rows →
            NoneNamed portal member.tenant (rows.map StoredMessage.content)
  | .listDocuments page =>
      ∀ rows, paginate (listDocuments portal member.tenant) page = some rows →
        NoneNamed portal member.tenant (rows.map GeneratedDocument.contentMarkdown)
  | .getDocument key =>
      ∀ row, getDocument portal member.tenant key = some row →
        NoneNamed portal member.tenant [row.contentMarkdown]

/-! ## The written rows -/

section Rows

variable {before after : List IdentifierAccessAudit} {portal : Portal} {now count other : Nat}
  {caller : Caller} {member : Membership} {findings : List BreachFinding}

/-- The log determines the count it was grown for. -/
theorem records_iff (records : Records before after count) :
    Records before after other ↔ other = count := by
  constructor
  · intro also
    rw [Records] at records also
    split at records <;> split at also
    · omega
    · obtain ⟨row, _, grown⟩ := also
      rw [records] at grown
      simp at grown
    · obtain ⟨row, _, grown⟩ := records
      rw [also] at grown
      simp at grown
    · obtain ⟨row, rfl, grown⟩ := records
      obtain ⟨again, rfl, same⟩ := also
      rw [grown] at same
      rw [List.singleton_inj.mp (List.append_cancel_left same)]
  · rintro rfl
    exact records

/-- What a trace counts: the findings with an identifier, for a viewer. -/
def tracedCount (member : Membership) (findings : List BreachFinding) : Nat :=
  if canViewIdentifiers (some member.role) then
    findings.countP fun finding => finding.identifierPlain ≠ ""
  else 0

theorem records_tracerAcces :
    Records portal.audits.rows (tracerAcces portal now caller member findings).audits.rows
      (tracedCount member findings) := by
  rw [tracerAcces, recordIdentifierAccess, tracedCount]
  cases canViewIdentifiers (some member.role) with
  | false => simp [Records]
  | true =>
      simp only [Option.isSome_some, Bool.not_true, Bool.and_false, Bool.false_eq_true, if_false,
        if_true, List.countP_eq_length_filter]
      split
      · rename_i none
        rw [List.isEmpty_iff.mp none]
        rfl
      · rename_i some
        rw [Records, if_neg (by simpa using some)]
        exact ⟨_, rfl, rfl⟩

end Rows

/-! ## The served findings -/

section Served

variable {portal : Portal} {tenant : Nat} {member : Membership} {role : Option MembershipRole}
  {finding : BreachFinding} {part : List BreachFinding} {body : Body}

/-- What this role reads as the identifier of the finding is its identifier in clear. -/
def exposes (role : Option MembershipRole) (finding : BreachFinding) : Bool :=
  finding.identifierPlain ≠ "" && identifierForViewer finding role = finding.identifierPlain

theorem exposes_of_canView (sees : canViewIdentifiers role = true) :
    exposes role finding = decide (finding.identifierPlain ≠ "") := by
  by_cases clear : finding.identifierPlain = ""
  · simp [exposes, clear]
  · simp [exposes, clear, identifierForViewer_of_canView sees clear]

theorem exposes_of_reader (masks : canViewIdentifiers role = false) :
    exposes role finding = finding.maskReveals := by
  rw [exposes, identifierForViewer_of_reader masks, BreachFinding.maskReveals]

/-- A response that serializes some findings, and has no restored text, serves
the ones its role exposes. -/
theorem servedCount_of_serialized (nodup : part.Nodup)
    (known : ∀ finding ∈ part, finding ∈ portal.store.findings ∧ finding.tenant = tenant)
    (entries : body.identifiers =
      part.map fun finding => (finding.id, identifierForViewer finding role))
    (textless : body.texts = []) :
    servedCount portal tenant body = part.countP (exposes role) := by
  apply Table.countP_eq_of_mem_iff nodup
  intro finding
  simp only [Body.serves, BreachFinding.namedIn, textless, entries, exposes, List.any_nil,
    Bool.and_false, Bool.or_false, Bool.and_eq_true, decide_eq_true_eq, List.contains_iff_mem,
    List.mem_map, Prod.mk.injEq]
  constructor
  · rintro ⟨member, _, clear, served, inPart, sameId, shown⟩
    obtain rfl : served = finding := Table.ident_injective (known served inPart).1 member sameId
    exact ⟨inPart, clear, shown⟩
  · rintro ⟨inPart, clear, shown⟩
    obtain ⟨member, owned⟩ := known finding inPart
    exact ⟨member, owned, clear, finding, inPart, rfl, shown⟩

/-- Serialized findings are all traced for a viewer; for a reader none is. -/
theorem countP_exposes_iff :
    part.countP (exposes (some member.role)) = tracedCount member part ↔
      canViewIdentifiers (some member.role) = true ∨
        ∀ finding ∈ part, finding.maskReveals = false := by
  rw [tracedCount]
  cases sees : canViewIdentifiers (some member.role) with
  | true =>
      simp only [if_true, true_or, iff_true]
      exact List.countP_congr fun finding _ => by rw [exposes_of_canView sees]
  | false =>
      simp only [Bool.false_eq_true, if_false, false_or, List.countP_eq_zero,
        exposes_of_reader sees, Bool.not_eq_true]

/-- A response of restored texts serves the findings they name. -/
theorem servedCount_of_texts (fieldless : body.identifiers = []) :
    servedCount portal tenant body = 0 ↔ NoneNamed portal tenant body.texts := by
  rw [servedCount, List.countP_eq_zero, NoneNamed]
  refine forall₂_congr fun finding _ => ?_
  simp [Body.serves, fieldless]

theorem servedCount_refused {status : Nat} : servedCount portal tenant (.refused status) = 0 := by
  rw [servedCount_of_texts rfl]
  intro finding _ _
  simp [BreachFinding.namedIn, Body.texts]

end Served

/-! ## The views -/

section Views

variable {backend : Backend} {portal : Portal} {now key : Nat} {caller : Caller}
  {member : Membership} {page : PageNumber}

/-- The rows a view wrote, against the findings its response serves. -/
def ViewAudited (portal : Portal) (member : Membership) (reply : Portal × Body) : Prop :=
  Records portal.audits.rows reply.1.audits.rows (servedCount portal member.tenant reply.2)

/-- A response that writes nothing is exact when it serves nothing. -/
theorem viewAudited_untraced {after : Portal} {body : Body}
    (untraced : after.audits.rows = portal.audits.rows) :
    ViewAudited portal member (after, body) ↔ servedCount portal member.tenant body = 0 := by
  have records : Records portal.audits.rows after.audits.rows 0 := by
    rw [Records, if_pos rfl]
    exact untraced
  exact records_iff records

theorem viewAudited_texts {body : Body} (fieldless : body.identifiers = []) :
    ViewAudited portal member (portal, body) ↔ NoneNamed portal member.tenant body.texts := by
  rw [viewAudited_untraced rfl, servedCount_of_texts fieldless]

theorem viewAudited_refused {status : Nat} :
    ViewAudited portal member (portal, .refused status) :=
  (viewAudited_untraced rfl).mpr servedCount_refused

/-- Serializing what is traced is exact for a viewer. -/
theorem viewAudited_serialized {part : List BreachFinding} {body : Body} (nodup : part.Nodup)
    (known : ∀ finding ∈ part, finding ∈ portal.store.findings ∧ finding.tenant = member.tenant)
    (entries : body.identifiers =
      part.map fun finding => (finding.id, identifierForViewer finding (some member.role)))
    (textless : body.texts = []) :
    ViewAudited portal member (tracerAcces portal now caller member part, body) ↔
      canViewIdentifiers (some member.role) = true ∨
        ∀ finding ∈ part, finding.maskReveals = false := by
  rw [ViewAudited, records_iff records_tracerAcces,
    servedCount_of_serialized nodup known entries textless]
  exact countP_exposes_iff

theorem findingListView_audited_iff (query : ListQuery) :
    ViewAudited portal member (findingListView backend portal now caller member query) ↔
      Accountable backend portal member (.listFindings query) := by
  rw [findingListView, Accountable]
  cases found : paginate (listFindings backend portal.toWorkspace member.tenant query.filter)
    query.page with
  | none => simp [viewAudited_refused]
  | some served =>
      have sublist := sublist_of_paginate found
      rw [viewAudited_serialized (nodup_listFindings.sublist sublist)]
      · simp
      · intro finding inPage
        obtain ⟨stored, owned, _⟩ := mem_listFindings.mp (sublist.subset inPage)
        exact ⟨stored, owned⟩
      · simp [Body.identifiers, serializeFinding]
      · rfl

theorem findingDetailView_audited_iff :
    ViewAudited portal member (findingDetailView portal now caller member key) ↔
      Accountable backend portal member (.getFinding key) := by
  rw [findingDetailView, Accountable]
  cases found : getFinding portal.store member.tenant key with
  | none => simp [viewAudited_refused]
  | some finding =>
      obtain ⟨stored, _, owned⟩ := getFinding_eq_some.mp found
      rw [viewAudited_serialized (List.nodup_singleton finding)]
      · simp
      · simp [stored, owned]
      · rfl
      · rfl

theorem canView_of_not_reader (writes : member.role ≠ .reader) :
    canViewIdentifiers (some member.role) = true := by
  cases role : member.role with
  | admin => rfl
  | contributor => rfl
  | reader => exact absurd role writes

/-- The update serves the finding and traces nothing. -/
theorem findingPatchView_audited_iff (status : Option String) :
    ViewAudited portal member (findingPatchView portal now caller member key status) ↔
      Accountable backend portal member (.patchFinding key status) := by
  rw [findingPatchView, Accountable]
  split
  · rename_i reads
    simp [viewAudited_refused, reads]
  · rename_i writes
    cases found : getFinding portal.store member.tenant key with
    | none => simp [viewAudited_refused]
    | some finding =>
        cases asked : requestedStatus status with
        | none => simp [viewAudited_refused]
        | some closed =>
            obtain ⟨stored, _, owned⟩ := getFinding_eq_some.mp found
            have served : servedCount portal member.tenant (.finding (serializeFinding
                  (some member.role) (finding.withStatus closed (some caller.user) now))) =
                [finding].countP (exposes (some member.role)) :=
              servedCount_of_serialized (List.nodup_singleton finding) (by simp [stored, owned])
                rfl rfl
            apply (viewAudited_untraced rfl).trans
            rw [served]
            simp [exposes_of_canView (canView_of_not_reader writes), writes]

theorem auditListView_audited : ViewAudited portal member (auditListView portal member page) := by
  rw [auditListView]
  split
  · cases paginate (listIdentifierAccessAudits portal member.tenant) page with
    | none => exact viewAudited_refused
    | some rows =>
        refine (viewAudited_texts rfl).mpr ?_
        intro finding _ _
        simp [BreachFinding.namedIn, Body.texts]
  · exact viewAudited_refused

theorem messageListView_audited_iff {conversation : Nat} :
    ViewAudited portal member (messageListView portal member conversation page) ↔
      Accountable backend portal member (.listMessages conversation page) := by
  rw [messageListView, Accountable]
  split
  · rename_i enabled
    cases getConversation portal member.tenant conversation with
    | none => simp [viewAudited_refused]
    | some found =>
        dsimp only
        cases shown : paginate (listMessages portal member.tenant found.id) page with
        | none => simp [viewAudited_refused, shown]
        | some rows =>
            apply (viewAudited_texts rfl).trans
            constructor
            · rintro unnamed _ _ ⟨⟩ _ same
              obtain rfl := Option.some.inj (shown.symm.trans same)
              exact unnamed
            · intro unnamed
              exact unnamed enabled found rfl rows shown
  · rename_i disabled
    exact iff_of_true viewAudited_refused fun enabled => absurd enabled disabled

theorem documentListView_audited_iff :
    ViewAudited portal member (documentListView portal member page) ↔
      Accountable backend portal member (.listDocuments page) := by
  rw [documentListView, Accountable]
  cases paginate (listDocuments portal member.tenant) page with
  | none => simp [viewAudited_refused]
  | some rows =>
      apply (viewAudited_texts rfl).trans
      simp [Body.texts]

theorem documentDetailView_audited_iff :
    ViewAudited portal member (documentDetailView portal member key) ↔
      Accountable backend portal member (.getDocument key) := by
  rw [documentDetailView, Accountable]
  cases getDocument portal member.tenant key with
  | none => simp [viewAudited_refused]
  | some row =>
      apply (viewAudited_texts rfl).trans
      simp [Body.texts]

end Views

/-! ## The feed -/

section Feed

variable {backend : Backend} {portal : Portal} {now : Nat} {caller : Caller} {member : Membership}
  {tenant : Nat} {role : Option MembershipRole} {finding : BreachFinding} {feed : ExposureFeed}
  {signals : List (Nat × List ReuseSignal)}

theorem isShown_iff (stored : finding ∈ portal.store.findings) :
    isShown backend portal tenant finding = true ↔
      finding ∈ visibleFindings (openFindings backend portal.toWorkspace tenant) finding.asset := by
  simp only [isShown, List.any_eq_true, decide_eq_true_eq]
  constructor
  · rintro ⟨shown, visible, sameId⟩
    have known := (mem_openFindings.mp (mem_findings_of_visible visible).1).1
    obtain rfl : shown = finding := Table.ident_injective known stored sameId
    exact visible
  · intro visible
    exact ⟨finding, visible, rfl⟩

/-- A feed serves an open finding that it shows exposed, one with a signal to a
viewer, and one that the synthesis names. -/
theorem serves_feed_iff
    (computed : reuseByFinding backend portal.toWorkspace tenant = some signals)
    (built : buildExposureFeed backend portal.toWorkspace tenant role = some feed)
    (stored : finding ∈ portal.store.findings) (owned : finding.tenant = tenant) :
    (Body.feed feed (getExposureSynthesis portal.store tenant)).serves finding = true ↔
      (isShown backend portal tenant finding = true ∧ exposes role finding = true ∨
        finding.status = .open ∧ canViewIdentifiers role = true ∧
          signalsFor signals finding ≠ []) ∨
      finding.namedIn (synthesisTexts portal tenant) = true := by
  have fields : (finding.identifierPlain ≠ "" ∧
        (finding.id, finding.identifierPlain) ∈ feed.identifiers) ↔
      (isShown backend portal tenant finding = true ∧ exposes role finding = true ∨
        finding.status = .open ∧ canViewIdentifiers role = true ∧
          signalsFor signals finding ≠ []) := by
    rw [mem_identifiers_feed computed built, isShown_iff stored]
    constructor
    · rintro ⟨clear, served, known, sameId, shown | signalled⟩
      all_goals
        obtain rfl : served = finding :=
          Table.ident_injective (mem_openFindings.mp known).1 stored sameId
      · exact Or.inl ⟨shown.1, by simp [exposes, clear, shown.2]⟩
      · obtain ⟨signal, emitted, inClear⟩ := signalled
        refine Or.inr ⟨(mem_openFindings.mp known).2.2, ?_, List.ne_nil_of_mem emitted⟩
        -- the signal of a reader holds no identifier
        by_contra masks
        rw [ReuseSignal.forViewer, if_neg masks] at inClear
        exact clear inClear.symm
    · rintro (⟨shown, exposed⟩ | ⟨isOpen, sees, signalled⟩)
      · have known := (mem_findings_of_visible shown).1
        simp only [exposes, Bool.and_eq_true, decide_eq_true_eq] at exposed
        exact ⟨exposed.1, finding, known, rfl, Or.inl ⟨shown, exposed.2⟩⟩
      · have known : finding ∈ openFindings backend portal.toWorkspace tenant :=
          mem_openFindings.mpr ⟨stored, owned, isOpen⟩
        obtain ⟨signal, emitted⟩ := List.exists_mem_of_ne_nil _ signalled
        obtain ⟨clear, inClear⟩ := identifier_of_signalsFor computed known emitted
        refine ⟨clear, finding, known, rfl, Or.inr ⟨signal, emitted, ?_⟩⟩
        rw [ReuseSignal.forViewer, if_pos sees]
        exact inClear
  rw [← fields]
  simp [Body.serves, Body.identifiers, Body.texts, synthesisTexts]

/-- What the feed traces is what the table holds open, with an identifier. -/
theorem countP_openFindings :
    (openFindings backend portal.toWorkspace tenant).countP
        (fun finding => finding.identifierPlain ≠ "") =
      portal.store.findings.rows.countP fun finding =>
        finding.tenant = tenant && finding.status = .open && finding.identifierPlain ≠ "" := by
  refine (Table.countP_eq_of_mem_iff nodup_listFindings ?_).symm
  intro finding
  rw [← openFindings, mem_openFindings]
  simp [and_assoc]

theorem isOpen_of_shown (stored : finding ∈ portal.store.findings)
    (shown : isShown backend portal tenant finding = true) : finding.status = .open :=
  (mem_openFindings.mp (mem_findings_of_visible ((isShown_iff stored).mp shown)).1).2.2

/-- To a viewer, a feed serves the open findings with an identifier that it
shows or signals, and those that the synthesis names. -/
theorem serves_feed_viewer (sees : canViewIdentifiers role = true)
    (computed : reuseByFinding backend portal.toWorkspace tenant = some signals)
    (built : buildExposureFeed backend portal.toWorkspace tenant role = some feed)
    (stored : finding ∈ portal.store.findings) (owned : finding.tenant = tenant) :
    (Body.feed feed (getExposureSynthesis portal.store tenant)).serves finding =
      (finding.status = .open && finding.identifierPlain ≠ "" &&
          (isShown backend portal tenant finding || !(signalsFor signals finding).isEmpty) ||
        finding.namedIn (synthesisTexts portal tenant)) := by
  rw [Bool.eq_iff_iff, serves_feed_iff computed built stored owned, Bool.or_eq_true]
  apply or_congr_left
  simp only [exposes_of_canView sees, sees, true_and, Bool.and_eq_true, Bool.or_eq_true,
    decide_eq_true_eq, Bool.not_eq_true', List.isEmpty_eq_false_iff]
  constructor
  · rintro (⟨shown, clear⟩ | ⟨isOpen, signalled⟩)
    · exact ⟨⟨isOpen_of_shown stored shown, clear⟩, Or.inl shown⟩
    · have known : finding ∈ openFindings backend portal.toWorkspace tenant :=
        mem_openFindings.mpr ⟨stored, owned, isOpen⟩
      obtain ⟨signal, emitted⟩ := List.exists_mem_of_ne_nil _ signalled
      exact ⟨⟨isOpen, (identifier_of_signalsFor computed known emitted).1⟩, Or.inr signalled⟩
  · rintro ⟨⟨isOpen, clear⟩, shown | signalled⟩
    · exact Or.inl ⟨shown, clear⟩
    · exact Or.inr ⟨isOpen, signalled⟩

/-- The feed of a viewer is counted right when what it leaves out and what its
synthesis adds have the same size. -/
theorem servedCount_feed_viewer (sees : canViewIdentifiers role = true)
    (computed : reuseByFinding backend portal.toWorkspace tenant = some signals)
    (built : buildExposureFeed backend portal.toWorkspace tenant role = some feed) :
    servedCount portal tenant (.feed feed (getExposureSynthesis portal.store tenant)) =
        (openFindings backend portal.toWorkspace tenant).countP
          (fun finding => finding.identifierPlain ≠ "") ↔
      portal.store.findings.rows.countP (leftOut backend portal tenant signals) =
        portal.store.findings.rows.countP (namedAfterwards portal tenant) := by
  rw [countP_openFindings, servedCount, Table.countP_eq_countP_iff]
  have serves (finding : BreachFinding) (stored : finding ∈ portal.store.findings)
      (owned : finding.tenant = tenant) := serves_feed_viewer sees computed built stored owned
  have missing : portal.store.findings.rows.countP (fun finding =>
        (finding.tenant = tenant && finding.status = .open && finding.identifierPlain ≠ "") &&
          !(finding.tenant = tenant &&
            (Body.feed feed (getExposureSynthesis portal.store tenant)).serves finding)) =
      portal.store.findings.rows.countP (leftOut backend portal tenant signals) := by
    refine List.countP_congr fun finding stored => ?_
    by_cases owned : finding.tenant = tenant
    · rw [serves finding stored owned, leftOut]
      simp [owned]
      tauto
    · simp [leftOut, owned]
  have added : portal.store.findings.rows.countP (fun finding =>
        (finding.tenant = tenant &&
            (Body.feed feed (getExposureSynthesis portal.store tenant)).serves finding) &&
          !(finding.tenant = tenant && finding.status = .open &&
            finding.identifierPlain ≠ "")) =
      portal.store.findings.rows.countP (namedAfterwards portal tenant) := by
    refine List.countP_congr fun finding stored => ?_
    by_cases owned : finding.tenant = tenant
    · rw [serves finding stored owned, namedAfterwards]
      simp [owned, BreachFinding.namedIn]
      tauto
    · simp [namedAfterwards, owned]
  rw [missing, added]

/-- The feed of a reader serves nothing when no shown mask reveals and the
synthesis names no one. -/
theorem servedCount_feed_reader (masks : canViewIdentifiers role = false)
    (computed : reuseByFinding backend portal.toWorkspace tenant = some signals)
    (built : buildExposureFeed backend portal.toWorkspace tenant role = some feed) :
    servedCount portal tenant (.feed feed (getExposureSynthesis portal.store tenant)) = 0 ↔
      (∀ finding ∈ portal.store.findings, finding.tenant = tenant →
        isShown backend portal tenant finding = true → finding.maskReveals = false) ∧
      NoneNamed portal tenant (synthesisTexts portal tenant) := by
  rw [servedCount, List.countP_eq_zero, NoneNamed, ← forall₂_and]
  refine forall₂_congr fun finding stored => ?_
  rw [← forall_and, Bool.and_eq_true, decide_eq_true_eq, not_and]
  refine forall_congr' fun owned => ?_
  rw [serves_feed_iff computed built stored owned, exposes_of_reader masks, masks]
  simp

theorem exposureFeedView_audited_iff :
    ViewAudited portal member (exposureFeedView backend portal now caller member) ↔
      Accountable backend portal member .exposureFeed := by
  have whole :
      buildExposureFeed backend portal.toWorkspace member.tenant (some member.role) ≠ none ↔ _ :=
    buildExposureFeed_ne_none_iff
  rw [exposureFeedView, Accountable]
  cases built : buildExposureFeed backend portal.toWorkspace member.tenant (some member.role) with
  | none =>
      -- a feed that is not built is not traced either
      have failed := fun both => whole.mpr both built
      refine iff_of_true viewAudited_refused fun sizes signals computed => ?_
      exact absurd ⟨by rw [computed]; rintro ⟨⟩, sizes⟩ failed
  | some feed =>
      have returned := whole.mp (by rw [built]; rintro ⟨⟩)
      obtain ⟨signals, computed⟩ := Option.ne_none_iff_exists'.mp returned.1
      rw [imp_iff_right returned.2, computed]
      apply (records_iff records_tracerAcces).trans
      rw [tracedCount]
      cases sees : canViewIdentifiers (some member.role) with
      | true =>
          rw [if_pos rfl, servedCount_feed_viewer sees computed built]
          simp [FeedAccountable, sees]
      | false =>
          rw [if_neg Bool.false_ne_true, servedCount_feed_reader sees computed built]
          simp [FeedAccountable, sees]

end Feed

/-! ## Every request -/

section Untraced

def asciiBackend : Backend :=
  { unicode := ⟨fun text => text.map Char.toLower, id, fun _ => true⟩
    icontains := fun text part => contains (text.map Char.toLower) (part.map Char.toLower) }

def leakedAccount (key : Nat) : BreachFinding :=
  { id := key
    tenant := 1
    asset := 0
    sourceEndpoint := .creds
    findingType := "creds"
    severity := .high
    status := .open
    identifierPlain := "jean@acme.fr"
    identifierMasked := "je••••@ac••••.fr"
    secretMasked := ""
    secretEncrypted := none
    hasSecret := false
    secretPurgedAt := none
    breachDate := none
    detectedAt := 10
    lastSeenAt := some 10
    rawData := .obj [("eml", .str "jean@acme.fr")]
    dedupHash := "key"
    identityHash := "identity"
    secretFingerprint := ""
    alert := none
    treatedBy := none
    treatedAt := none }

def contributor : Membership :=
  { id := 0, tenant := 1, user := 5, email := "rssi@acme.fr", role := .contributor }

/-- A tenant with one asset, one contributor and one open finding. -/
def acmePortal : Portal :=
  { store :=
      { findings := Table.empty.create leakedAccount (fun _ => rfl)
        alerts := Table.empty
        syntheses := Table.empty }
    assets := Table.empty.create
      (fun key =>
        { id := key, tenant := 1, type := .website, value := "https://acme.fr", isActive := true })
      (fun _ => rfl)
    members := Table.empty.create (fun key => { contributor with id := key }) (fun _ => rfl)
    billing := ⟨Table.empty, Table.empty, []⟩
    aiEnabled := []
    conversations := Table.empty
    messages := Table.empty
    documents := Table.empty
    audits := Table.empty }

def treatingCaller : Caller :=
  { user := 5, membership := some contributor, ipAddress := "192.0.2.1", userAgent := "" }

end Untraced

end RssiService.ThreatIntelligence
