import Mathlib.Data.List.Sort
import RssiService.Foundation.Outcome
import RssiService.Python.Url
import RssiService.ThreatIntelligence.Findings

/-!
# Possible reuse of a password

The findings of a tenant are crossed on their identifiers.  A signal is emitted
for an identifier seen in several findings, and for one of a member seen at a
service that is not the tenant's own.  Nothing is tested against any account.
-/

namespace RssiService.ThreatIntelligence

open Foundation Python
open Monitoring (Asset)

/-- The endpoints whose records carry the identifier of an account. -/
def identifierBearingEndpoints : List SourceEndpoint := [.stealer, .combo, .creds]

inductive SignalType where
  | repeatedExposure
  | externalService
  deriving DecidableEq, Repr

structure ReuseSignal where
  signalType : SignalType
  identifier : String
  relatedFindingIds : List Nat
  occurrences : Option Nat
  externalService : Option String
  deriving DecidableEq, Repr

def normalizeIdentifier (unicode : Unicode) (identifier : String) : String :=
  unicode.lower (strip identifier)

def identifierOf (unicode : Unicode) (finding : BreachFinding) : String :=
  normalizeIdentifier unicode (textOr finding.identifierPlain finding.identifierMasked)

/-! ## Domains -/

/-- The domain the first usable field announces.  `none` is the `ValueError` of
a malformed URL. -/
def announcedDomain (unicode : Unicode) (rawData : Json) : List String → Option String
  | [] => some ""
  | key :: rest =>
      let value := rawData.get key
      if !value.isTruthy then announcedDomain unicode rawData rest
      else
        let text := unicode.lower (strip (value.toStr unicode))
        if contains text "://" then (Url.hostname unicode text).map fun host => host.getD ""
        -- a source is often a human label, kept only where it looks like a domain
        else if contains text "." && !contains text " " then some text
        else announcedDomain unicode rawData rest

/-- The domain of the service a finding leaked from, as the provider announces it. -/
def findingDomain (unicode : Unicode) (finding : BreachFinding) : Option String :=
  announcedDomain unicode finding.rawData ["dom", "domain_name", "src"]

/-- `text.removeprefix("www.")`. -/
def withoutWww (text : String) : String :=
  if "www.".toList.isPrefixOf text.toList then String.ofList (text.toList.drop 4) else text

def ownDomains (unicode : Unicode) (asset : Asset) : Option (List String) :=
  let value := unicode.lower (strip asset.value)
  let hostname :=
    if contains value "://" then (Url.hostname unicode value).map fun host => host.getD ""
    else some value
  hostname.map fun host => if host = "" then [] else [host, withoutWww host]

/-- The domains of the company: those of its declared assets. -/
def tenantDomains (unicode : Unicode) (assets : List Asset) : Option (List String) :=
  (assets.mapM (ownDomains unicode)).map List.flatten

/-- The domain is neither one of the company's nor below one of them. -/
def isExternal (domains : List String) (source : String) : Bool :=
  source ≠ "" && !domains.any fun own =>
    source = own || ('.' :: own.toList).isSuffixOf source.toList

/-! ## Signals -/

/-- The other findings with the same identifier in clear. -/
def siblings (unicode : Unicode) (relevant : List BreachFinding) (finding : BreachFinding) :
    List BreachFinding :=
  relevant.filter fun other =>
    other.identifierPlain ≠ "" && identifierOf unicode other = identifierOf unicode finding &&
      other.id ≠ finding.id

def repeatedExposure (finding : BreachFinding) (related : List BreachFinding) :
    List ReuseSignal :=
  if related.isEmpty then []
  else
    [{ signalType := .repeatedExposure
       identifier := finding.identifierPlain
       relatedFindingIds := (related.map BreachFinding.id).insertionSort (· ≤ ·)
       occurrences := some (related.length + 1)
       externalService := none }]

def externalExposure (finding : BreachFinding) (source : String) (exposed : Bool) :
    List ReuseSignal :=
  if exposed then
    [{ signalType := .externalService
       identifier := finding.identifierPlain
       relatedFindingIds := []
       occurrences := none
       externalService := some source }]
  else []

/-- The signals of one finding.  A masked identifier crosses with nothing:
several accounts have the same mask. -/
def signalsOf (unicode : Unicode) (relevant : List BreachFinding)
    (emails domains : List String) (finding : BreachFinding) : Option (List ReuseSignal) :=
  let identifier := identifierOf unicode finding
  if finding.identifierPlain = "" || identifier = "" then some []
  else
    (findingDomain unicode finding).map fun source =>
      repeatedExposure finding (siblings unicode relevant finding) ++
        externalExposure finding source (emails.contains identifier && isExternal domains source)

/-- The signals of the findings that have some, by the key of the finding. -/
def correlate (unicode : Unicode) (findings : List BreachFinding) (tenantEmails : List String)
    (assets : List Asset) : Option (List (Nat × List ReuseSignal)) := do
  let domains ← tenantDomains unicode assets
  let relevant := findings.filter fun finding =>
    identifierBearingEndpoints.contains finding.sourceEndpoint
  let emails := tenantEmails.map (normalizeIdentifier unicode)
  let signals ← relevant.mapM fun finding =>
    (signalsOf unicode relevant emails domains finding).map fun found => (finding.id, found)
  some (signals.filter fun entry => !entry.2.isEmpty)

/-- `reuse_by_finding.get(finding.id, [])`. -/
def signalsFor (signals : List (Nat × List ReuseSignal)) (finding : BreachFinding) :
    List ReuseSignal :=
  (signals.lookup finding.id).getD []

/-! ## The identifier of a signal -/

section Identifier

variable {unicode : Unicode} {relevant findings : List BreachFinding}
  {emails domains tenantEmails : List String} {assets : List Asset} {finding : BreachFinding}
  {found : List ReuseSignal} {signal : ReuseSignal} {signals : List (Nat × List ReuseSignal)}

theorem identifier_of_mem_signalsOf
    (computed : signalsOf unicode relevant emails domains finding = some found)
    (member : signal ∈ found) :
    finding.identifierPlain ≠ "" ∧ signal.identifier = finding.identifierPlain := by
  rw [signalsOf] at computed
  split at computed
  · obtain rfl := Option.some.inj computed
    cases member
  · rename_i usable
    refine ⟨fun empty => usable (by simp [empty]), ?_⟩
    obtain ⟨source, _, rfl⟩ := Option.map_eq_some_iff.mp computed
    rcases List.mem_append.mp member with repeated | external
    · rw [repeatedExposure] at repeated
      split at repeated
      · cases repeated
      · rw [List.mem_singleton.mp repeated]
    · rw [externalExposure] at external
      split at external
      · rw [List.mem_singleton.mp external]
      · cases external

theorem exists_tenantDomains
    (computed : correlate unicode findings tenantEmails assets = some signals) :
    ∃ domains, tenantDomains unicode assets = some domains := by
  simp only [correlate, Option.bind_eq_bind, Option.bind_eq_some_iff] at computed
  obtain ⟨domains, owned, _⟩ := computed
  exact ⟨domains, owned⟩

/-- The signals of a finding, where the correlation computes some. -/
theorem mem_signalsFor_iff
    (distinct : ∀ first ∈ findings, ∀ second ∈ findings, first.id = second.id → first = second)
    (computed : correlate unicode findings tenantEmails assets = some signals)
    (owned : tenantDomains unicode assets = some domains) (known : finding ∈ findings) :
    signal ∈ signalsFor signals finding ↔
      finding.sourceEndpoint ∈ identifierBearingEndpoints ∧ ∃ found,
        signalsOf unicode (findings.filter fun finding =>
            identifierBearingEndpoints.contains finding.sourceEndpoint)
          (tenantEmails.map (normalizeIdentifier unicode)) domains finding = some found ∧
        signal ∈ found := by
  simp only [correlate, Option.bind_eq_bind, Option.bind_eq_some_iff] at computed
  obtain ⟨_, sameDomains, entries, visited, whole⟩ := computed
  cases owned.symm.trans sameDomains
  cases whole
  -- an entry of the key of the finding is that of the finding
  have entry {found : List ReuseSignal} (inside : (finding.id, found) ∈ entries) :
      finding.sourceEndpoint ∈ identifierBearingEndpoints ∧
        signalsOf unicode (findings.filter fun finding =>
            identifierBearingEndpoints.contains finding.sourceEndpoint)
          (tenantEmails.map (normalizeIdentifier unicode)) domains finding = some found := by
    obtain ⟨source, relevant, same⟩ := Outcome.exists_of_mem_mapM visited inside
    obtain ⟨_, signalled, pair⟩ := Option.map_eq_some_iff.mp same
    obtain ⟨sameId, rfl⟩ := Prod.mk.inj pair
    obtain ⟨listed, bearing⟩ := List.mem_filter.mp relevant
    obtain rfl := distinct source listed finding known sameId
    exact ⟨List.contains_iff_mem.mp bearing, signalled⟩
  rw [signalsFor]
  constructor
  · intro member
    cases looked : (entries.filter fun entry => !entry.2.isEmpty).lookup finding.id with
    | none =>
        rw [looked] at member
        cases member
    | some found =>
        rw [looked] at member
        obtain ⟨earlier, later, split, _⟩ := List.lookup_eq_some_iff.mp looked
        obtain ⟨bearing, signalled⟩ := entry
          (List.mem_of_mem_filter (split ▸ List.mem_append_right earlier List.mem_cons_self))
        exact ⟨bearing, found, signalled, member⟩
  · rintro ⟨bearing, found, signalled, member⟩
    have inside : (finding.id, found) ∈ entries.filter fun entry => !entry.2.isEmpty := by
      refine List.mem_filter.mpr ⟨?_, ?_⟩
      · refine Outcome.mem_of_mapM visited
          (List.mem_filter.mpr ⟨known, List.contains_iff_mem.mpr bearing⟩) ?_
        rw [signalled]
        rfl
      · cases found with
        | nil => cases member
        | cons first rest => rfl
    cases looked : (entries.filter fun entry => !entry.2.isEmpty).lookup finding.id with
    | none => exact absurd rfl (bne_iff_ne.mp (List.lookup_eq_none_iff.mp looked _ inside))
    | some other =>
        obtain ⟨earlier, later, split, _⟩ := List.lookup_eq_some_iff.mp looked
        obtain ⟨_, again⟩ := entry
          (List.mem_of_mem_filter (split ▸ List.mem_append_right earlier List.mem_cons_self))
        cases signalled.symm.trans again
        exact member

/-- A signal names its finding with the identifier of that finding in clear. -/
theorem identifier_of_mem_signalsFor
    (distinct : ∀ first ∈ findings, ∀ second ∈ findings, first.id = second.id → first = second)
    (computed : correlate unicode findings tenantEmails assets = some signals)
    (known : finding ∈ findings) (member : signal ∈ signalsFor signals finding) :
    finding.identifierPlain ≠ "" ∧ signal.identifier = finding.identifierPlain := by
  obtain ⟨domains, owned⟩ := exists_tenantDomains computed
  obtain ⟨_, found, signalled, inside⟩ :=
    (mem_signalsFor_iff distinct computed owned known).mp member
  exact identifier_of_mem_signalsOf signalled inside

end Identifier

end RssiService.ThreatIntelligence
