import RssiService.ThreatIntelligence.ScoredFeed

/-!
# Sources of the company itself

A leak at the company is no sign of a reuse elsewhere.  The source of a finding is a text of the
provider: a URL is parsed, any other text is compared as it is.
-/

namespace RssiService.ThreatIntelligence

open Foundation Python
open Monitoring (Asset)

/-! ## The host of a source -/

/-- The text a source is announced with: the first one that is a URL or looks like a domain. -/
def sourceText (unicode : Unicode) (rawData : Json) : List String → Option String
  | [] => none
  | key :: rest =>
      let value := rawData.get key
      if !value.isTruthy then sourceText unicode rawData rest
      else
        let text := unicode.lower (strip (value.toStr unicode))
        if contains text "://" || contains text "." && !contains text " " then some text
        else sourceText unicode rawData rest

/-- The host of a text without a scheme, apart from a user part, a port and a path. -/
def bareHost (text : String) : String :=
  let location :=
    match text.toList with
    | '/' :: '/' :: rest => rest
    | symbols => symbols
  String.ofList
    (Url.hostInfo (location.takeWhile fun symbol => !(['/', '?', '#'].contains symbol))).host

/-- The host of a source; a malformed URL has none. -/
def sourceHost (unicode : Unicode) (text : String) : Option String :=
  if contains text "://" then (Url.hostname unicode text).map fun host => host.getD ""
  else some (bareHost text)

/-- One of the domains, or below one of them. -/
def IsOwn (domains : List String) (host : String) : Prop :=
  ∃ own ∈ domains, host = own ∨ ('.' :: own.toList) <:+ host.toList

/-- The signals say nothing of a service elsewhere where the host of the source is the company's. -/
def NoOwnExternal (backend : Backend) (workspace : Workspace) (tenant : Nat) : Prop :=
  ∀ signals, openSignals backend workspace tenant = some signals →
    ∀ domains, tenantDomains backend.unicode (listAssets workspace tenant) = some domains →
      ∀ finding, OpenOf workspace tenant finding → ∀ text host,
        sourceText backend.unicode finding.rawData ["dom", "domain_name", "src"] = some text →
          sourceHost backend.unicode text = some host → IsOwn domains host →
            ∀ signal ∈ signalsFor signals finding, signal.signalType ≠ .externalService

/-- A finding that has the address of a member in clear. -/
def IsOfMember (backend : Backend) (workspace : Workspace) (tenant : Nat)
    (finding : BreachFinding) : Prop :=
  finding.sourceEndpoint ∈ identifierBearingEndpoints ∧ finding.identifierPlain ≠ "" ∧
    identifierOf backend.unicode finding ≠ "" ∧
      identifierOf backend.unicode finding ∈
        (tenantMemberEmails workspace tenant).map (normalizeIdentifier backend.unicode)

/-- A source of the company that is no URL is its bare host, or as a whole text one of its domains
or below one. -/
def SourcesBare (backend : Backend) (workspace : Workspace) (tenant : Nat) : Prop :=
  UrlsReadable backend workspace tenant →
    ∀ domains, tenantDomains backend.unicode (listAssets workspace tenant) = some domains →
      ∀ finding, OpenOf workspace tenant finding → IsOfMember backend workspace tenant finding →
        ∀ text,
          sourceText backend.unicode finding.rawData ["dom", "domain_name", "src"] = some text →
            contains text "://" = false → IsOwn domains (bareHost text) →
              bareHost text = text ∨ IsOwn domains text

/-! ## Domains of the company -/

section Domains

variable {unicode : Unicode} {assets : List Asset} {domains : List String} {domain host : String}

/-- The host of a declared asset, as the code reads it. -/
def assetHost (unicode : Unicode) (asset : Asset) : Option String :=
  let value := unicode.lower (strip asset.value)
  if contains value "://" then (Url.hostname unicode value).map fun host => host.getD ""
  else some value

/-- The domains of the company are the hosts of its assets, with and without their `www.`. -/
theorem mem_tenantDomains_iff (owned : tenantDomains unicode assets = some domains) :
    domain ∈ domains ↔ ∃ asset ∈ assets, ∃ host, assetHost unicode asset = some host ∧ host ≠ "" ∧
      (domain = host ∨ domain = withoutWww host) := by
  obtain ⟨parts, visited, rfl⟩ := Option.map_eq_some_iff.mp owned
  rw [List.mem_flatten]
  constructor
  · rintro ⟨part, listed, inside⟩
    obtain ⟨asset, declared, read⟩ := Outcome.exists_of_mem_mapM visited listed
    obtain ⟨host, hosted, rfl⟩ := Option.map_eq_some_iff.mp read
    refine ⟨asset, declared, host, hosted, ?_⟩
    split at inside
    · cases inside
    · rename_i some_host
      rw [List.mem_cons, List.mem_singleton] at inside
      exact ⟨some_host, inside⟩
  · rintro ⟨asset, declared, host, hosted, some_host, same⟩
    have read : ownDomains unicode asset = some [host, withoutWww host] := by
      have mapped : ownDomains unicode asset = (assetHost unicode asset).map fun host =>
          if host = "" then [] else [host, withoutWww host] := rfl
      rw [mapped, hosted, Option.map_some, if_neg some_host]
    refine ⟨_, Outcome.mem_of_mapM visited declared read, ?_⟩
    rw [List.mem_cons, List.mem_singleton]
    exact same

/-- Where a delimiter stands in a text, what follows it decides whether the text is the company's:
a path or a port that does not end with a domain hides the host before it, and a user part a domain
after it. -/
theorem isOwn_delimited_iff {delimiter : Char} (dot : delimiter ≠ '.')
    (plain : ∀ own ∈ domains, delimiter ∉ own.toList) (first second : List Char) :
    IsOwn domains (String.ofList (first ++ delimiter :: second)) ↔
      ∃ own ∈ domains, ('.' :: own.toList) <:+ second := by
  refine exists_congr fun own => and_congr_right fun listed => ?_
  have absent : delimiter ∉ '.' :: own.toList := by
    rw [List.mem_cons, not_or]
    exact ⟨dot, plain own listed⟩
  have inside : delimiter ∈ first ++ delimiter :: second :=
    List.mem_append_right first List.mem_cons_self
  rw [String.toList_ofList]
  constructor
  · rintro (rfl | suffix)
    · rw [String.toList_ofList] at absent
      exact absurd (List.mem_cons_of_mem '.' inside) absent
    · rcases List.suffix_or_suffix_of_suffix suffix (List.suffix_append first (delimiter :: second))
        with short | long
      · rcases List.suffix_cons_iff.mp short with whole | short
        · exact absurd (whole ▸ List.mem_cons_self) absent
        · exact short
      · exact absurd (long.subset List.mem_cons_self) absent
  · intro suffix
    exact .inr (suffix.trans ((List.suffix_cons delimiter second).trans
      (List.suffix_append first (delimiter :: second))))

end Domains

section Sources

variable {unicode : Unicode} {backend : Backend} {workspace : Workspace} {tenant : Nat}
  {rawData : Json} {keys domains emails tenantEmails : List String} {text host : String}
  {finding : BreachFinding} {relevant findings : List BreachFinding} {assets : List Asset}
  {signals : List (Nat × List ReuseSignal)}

/-- What the code reads of the text of a source. -/
theorem announcedDomain_eq (unicode : Unicode) (rawData : Json) (keys : List String) :
    announcedDomain unicode rawData keys =
      match sourceText unicode rawData keys with
      | none => some ""
      | some text =>
          if contains text "://" then (Url.hostname unicode text).map fun host => host.getD ""
          else some text := by
  induction keys with
  | nil => rfl
  | cons key rest ih =>
      rw [announcedDomain, sourceText]
      dsimp only
      split
      · exact ih
      · cases url : contains (unicode.lower (strip ((rawData.get key).toStr unicode))) "://" with
        | true => simp [url]
        | false =>
            cases dotted : contains (unicode.lower (strip ((rawData.get key).toStr unicode))) "." &&
                !contains (unicode.lower (strip ((rawData.get key).toStr unicode))) " " with
            | true => simp [url]
            | false => simpa using ih

theorem isExternal_eq_true_iff :
    isExternal domains text = true ↔ text ≠ "" ∧ ¬IsOwn domains text := by
  rw [isExternal, Bool.and_eq_true, decide_eq_true_eq, Bool.not_eq_true', ← Bool.not_eq_true,
    List.any_eq_true, IsOwn]
  refine and_congr_right fun _ => not_congr (exists_congr fun own => and_congr_right fun _ => ?_)
  rw [Bool.or_eq_true, decide_eq_true_eq, List.isSuffixOf_iff_suffix]

/-- A finding is signalled as one of another service where it has the address of a member and a
source that is not the company's. -/
theorem external_mem_signalsOf_iff {found : List ReuseSignal}
    (computed : signalsOf unicode relevant emails domains finding = some found) :
    (∃ signal ∈ found, signal.signalType = .externalService) ↔
      finding.identifierPlain ≠ "" ∧ identifierOf unicode finding ≠ "" ∧
        identifierOf unicode finding ∈ emails ∧
          ∃ source, findingDomain unicode finding = some source ∧
            isExternal domains source = true := by
  rw [signalsOf] at computed
  split at computed
  · rename_i unusable
    cases computed
    refine iff_of_false (by rintro ⟨_, ⟨⟩, _⟩) ?_
    rintro ⟨clear, usable, _⟩
    rcases Bool.or_eq_true_iff.mp unusable with plain | blank
    · exact clear (of_decide_eq_true plain)
    · exact usable (of_decide_eq_true blank)
  · rename_i usable
    rw [Bool.or_eq_true, decide_eq_true_eq, decide_eq_true_eq, not_or] at usable
    obtain ⟨source, announced, rfl⟩ := Option.map_eq_some_iff.mp computed
    have repeated (related : List BreachFinding) :
        ∀ signal ∈ repeatedExposure finding related, signal.signalType ≠ .externalService := by
      intro signal member
      rw [repeatedExposure] at member
      split at member
      · cases member
      · rw [List.mem_singleton.mp member]
        rintro ⟨⟩
    constructor
    · rintro ⟨signal, member, external⟩
      rcases List.mem_append.mp member with earlier | here
      · exact absurd external (repeated _ signal earlier)
      · rw [externalExposure] at here
        split at here
        · rename_i exposed
          obtain ⟨known, elsewhere⟩ := Bool.and_eq_true_iff.mp exposed
          exact ⟨usable.1, usable.2, List.contains_iff_mem.mp known, source, announced, elsewhere⟩
        · cases here
    · rintro ⟨_, _, known, other, same, elsewhere⟩
      cases announced.symm.trans same
      rw [externalExposure, if_pos (Bool.and_eq_true_iff.mpr
        ⟨List.contains_iff_mem.mpr known, elsewhere⟩)]
      exact ⟨_, List.mem_append_right _ (List.mem_singleton_self _), rfl⟩

theorem external_signal_iff (computed : openSignals backend workspace tenant = some signals)
    (owned : tenantDomains backend.unicode (listAssets workspace tenant) = some domains)
    (isOpen : OpenOf workspace tenant finding) :
    (∃ signal ∈ signalsFor signals finding, signal.signalType = .externalService) ↔
      IsOfMember backend workspace tenant finding ∧
        ∃ source, findingDomain backend.unicode finding = some source ∧
          isExternal domains source = true := by
  have distinct : ∀ first ∈ openFindings backend workspace tenant,
      ∀ second ∈ openFindings backend workspace tenant, first.id = second.id → first = second := by
    intro first firstOpen second secondOpen same
    exact Table.ident_injective (mem_openFindings.mp firstOpen).1
      (mem_openFindings.mp secondOpen).1 same
  have known : finding ∈ openFindings backend workspace tenant := mem_openFindings.mpr isOpen
  constructor
  · rintro ⟨signal, member, external⟩
    obtain ⟨bearing, found, signalled, inside⟩ :=
      (mem_signalsFor_iff distinct computed owned known).mp member
    obtain ⟨clear, usable, address, announced⟩ :=
      (external_mem_signalsOf_iff signalled).mp ⟨signal, inside, external⟩
    exact ⟨⟨bearing, clear, usable, address⟩, announced⟩
  · rintro ⟨⟨bearing, clear, usable, address⟩, source, announced, elsewhere⟩
    have readable : signalsOf backend.unicode ((openFindings backend workspace tenant).filter
        fun finding => identifierBearingEndpoints.contains finding.sourceEndpoint)
        ((tenantMemberEmails workspace tenant).map (normalizeIdentifier backend.unicode)) domains
        finding ≠ none :=
      signalsOf_ne_none_iff.mpr fun _ _ => by
        rw [announced]
        rintro ⟨⟩
    obtain ⟨found, signalled⟩ := Option.ne_none_iff_exists'.mp readable
    obtain ⟨signal, inside, external⟩ := (external_mem_signalsOf_iff signalled).mpr
      ⟨clear, usable, address, source, announced, elsewhere⟩
    exact ⟨signal, (mem_signalsFor_iff distinct computed owned known).mpr
      ⟨bearing, found, signalled, inside⟩, external⟩

/-- Of a URL the code compares the host, of any other text the text. -/
theorem findingDomain_of_sourceText
    (announced : sourceText unicode finding.rawData ["dom", "domain_name", "src"] = some text) :
    findingDomain unicode finding =
      if contains text "://" then sourceHost unicode text else some text := by
  rw [findingDomain, announcedDomain_eq, announced, sourceHost]
  dsimp only
  split <;> rfl

theorem sourceText_ne_empty (announced : sourceText unicode rawData keys = some text) :
    text ≠ "" := by
  induction keys with
  | nil => cases announced
  | cons key rest ih =>
      rw [sourceText] at announced
      dsimp only at announced
      split at announced
      · exact ih announced
      · split at announced
        · rename_i looks
          cases announced
          intro empty
          rw [empty] at looks
          revert looks
          decide
        · exact ih announced

/-- No signal says that a source of the company is another service exactly when each source of the
company is a URL, or its bare host, or as a whole text one of its domains or below one. -/
theorem no_own_external_iff (backend : Backend) (workspace : Workspace) (tenant : Nat) :
    NoOwnExternal backend workspace tenant ↔ SourcesBare backend workspace tenant := by
  constructor
  · intro silent readable domains owned finding isOpen ofMember text announced bare own
    obtain ⟨signals, computed⟩ :=
      Option.ne_none_iff_exists'.mp (openSignals_ne_none_iff.mpr readable)
    by_contra dressed
    rw [not_or] at dressed
    have elsewhere : isExternal domains text = true :=
      isExternal_eq_true_iff.mpr ⟨sourceText_ne_empty announced, dressed.2⟩
    have read : findingDomain backend.unicode finding = some text := by
      rw [findingDomain_of_sourceText announced, bare]
      rfl
    obtain ⟨signal, member, external⟩ := (external_signal_iff computed owned isOpen).mpr
      ⟨ofMember, text, read, elsewhere⟩
    have host : sourceHost backend.unicode text = some (bareHost text) := by
      rw [sourceHost, bare]
      rfl
    exact silent signals computed domains owned finding isOpen text _ announced host own signal
      member external
  · intro bare signals computed domains owned finding isOpen text host announced hosted own
      signal member external
    obtain ⟨ofMember, source, read, elsewhere⟩ :=
      (external_signal_iff computed owned isOpen).mp ⟨signal, member, external⟩
    obtain ⟨_, outside⟩ := isExternal_eq_true_iff.mp elsewhere
    rw [findingDomain_of_sourceText announced] at read
    cases url : contains text "://" with
    | true =>
        rw [url, if_pos rfl] at read
        cases hosted.symm.trans read
        exact outside own
    | false =>
        rw [url, if_neg Bool.false_ne_true] at read
        cases read
        rw [sourceHost, url, if_neg Bool.false_ne_true] at hosted
        cases hosted
        have readable : UrlsReadable backend workspace tenant := by
          rw [← openSignals_ne_none_iff, computed]
          rintro ⟨⟩
        rcases bare readable domains owned finding isOpen ofMember text announced url own with
          same | whole
        · exact outside (same ▸ own)
        · exact outside whole

end Sources

/-! A leak at the login page of the company, with the address of a member. -/

def ownLogin (key : Nat) : BreachFinding :=
  { leakedAccount key with
    rawData := .obj [("eml", .str "jean@acme.fr"), ("src", .str "acme.fr/login")] }

def exposedMember (key : Nat) : Membership :=
  { contributor with id := key, email := "jean@acme.fr" }

theorem ident_ownLogin (key : Nat) : ident (ownLogin key) = key := rfl

theorem ident_exposedMember (key : Nat) : ident (exposedMember key) = key := rfl

def loginWorkspace : Workspace :=
  { brokenWorkspace with
    store :=
      { findings := Table.empty.create ownLogin ident_ownLogin
        alerts := Table.empty
        syntheses := Table.empty }
    members := Table.empty.create exposedMember ident_exposedMember }

/-- The company is taken for another service. -/
theorem login_page_is_external : ¬NoOwnExternal asciiBackend loginWorkspace 1 := by
  intro silent
  have computed : openSignals asciiBackend loginWorkspace 1 =
      some [(0, [⟨.externalService, "jean@acme.fr", [], none, some "acme.fr/login"⟩])] := by
    decide +kernel
  have owned : tenantDomains asciiBackend.unicode (listAssets loginWorkspace 1) =
      some ["acme.fr", "acme.fr"] := by
    decide +kernel
  have announced : sourceText asciiBackend.unicode (ownLogin 0).rawData
      ["dom", "domain_name", "src"] = some "acme.fr/login" := by
    decide +kernel
  have hosted : sourceHost asciiBackend.unicode "acme.fr/login" = some "acme.fr" := by
    decide +kernel
  have isOpen : OpenOf loginWorkspace 1 (ownLogin 0) := ⟨List.mem_singleton_self _, rfl, rfl⟩
  exact silent _ computed _ owned _ isOpen _ _ announced hosted
    ⟨"acme.fr", List.mem_cons_self, .inl rfl⟩ _ (List.mem_singleton_self _) rfl

end RssiService.ThreatIntelligence
