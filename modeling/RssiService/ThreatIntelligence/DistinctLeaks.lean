import RssiService.ThreatIntelligence.Fingerprints
import RssiService.ThreatIntelligence.Ingestion

/-!
# Leaks that share a deduplication key

Two leaks of one endpoint get different keys when their first secrets differ,
or when their identity texts do.  An identifier read from a field that is no
identity field, a value of another type with the same text, and a value that
holds the separator tell no leak from another.
-/

namespace RssiService.ThreatIntelligence

open Foundation Python

/-- Two records that are not about the same leak: another identifier, another
value of an identity field, or other secrets. -/
def DistinctLeaks (unicode : Unicode) (endpoint : String) (raw raw' : List (String × Json)) :
    Prop :=
  extractIdentifier unicode endpoint (.obj raw) ≠ extractIdentifier unicode endpoint (.obj raw') ∨
    (∃ field ∈ (schemaOf endpoint).identityFields,
      (Json.obj raw).get field ≠ (Json.obj raw').get field) ∨
    ¬ (secrets unicode (.obj raw)).Perm (secrets unicode (.obj raw'))

/-- What tells two records apart: the text of their first secret, or the pieces
of their identity fields. -/
def ToldApart (unicode : Unicode) (endpoint : String) (raw raw' : List (String × Json)) : Prop :=
  firstSecret unicode raw ≠ firstSecret unicode raw' ∨
    identityPieces unicode endpoint raw ≠ identityPieces unicode endpoint raw'

/-- Without collision, distinct leaks get distinct keys exactly when their first
secrets or their identity pieces differ. -/
theorem distinctLeaks_dedupHash_ne_iff (runtime : Runtime) (endpoint : String)
    (raw raw' : List (String × Json))
    (free : CollisionFree runtime
      (hashedTexts runtime endpoint raw ++ hashedTexts runtime endpoint raw')) :
    (DistinctLeaks runtime.unicode endpoint raw raw' →
        (normalizeFinding runtime endpoint raw).dedupHash ≠
          (normalizeFinding runtime endpoint raw').dedupHash) ↔
      (DistinctLeaks runtime.unicode endpoint raw raw' →
        ToldApart runtime.unicode endpoint raw raw') := by
  apply imp_congr_right
  intro _
  rw [ne_eq, dedupHash_eq_iff free, identityText_eq_iff, ToldApart]
  tauto

/-! Two people in one leaked file, their addresses under a name the endpoint
does not know, and under the one it knows. -/

section Samples

def leakedUnder (name address : String) : List (String × Json) :=
  [(name, .str address), ("src", .str "forum")]

theorem distinctLeaks_dedupHash_ne_known :
    DistinctLeaks plainRuntime.unicode "creds" (leakedUnder "eml" "alice@acme.fr")
        (leakedUnder "eml" "bob@acme.fr") ∧
      (normalizeFinding plainRuntime "creds" (leakedUnder "eml" "alice@acme.fr")).dedupHash ≠
        (normalizeFinding plainRuntime "creds" (leakedUnder "eml" "bob@acme.fr")).dedupHash := by
  have identifiers : extractIdentifier plainRuntime.unicode "creds"
        (.obj (leakedUnder "eml" "alice@acme.fr")) ≠
      extractIdentifier plainRuntime.unicode "creds"
        (.obj (leakedUnder "eml" "bob@acme.fr")) := by decide +kernel
  have told := (distinctLeaks_dedupHash_ne_iff plainRuntime "creds"
    (leakedUnder "eml" "alice@acme.fr") (leakedUnder "eml" "bob@acme.fr")
    (by decide +kernel)).mpr fun _ => Or.inr (by decide +kernel)
  exact ⟨Or.inl identifiers, told (Or.inl identifiers)⟩

/-- The address is the identifier of the finding, and it is not hashed. -/
theorem distinctLeaks_sameKey :
    CollisionFree plainRuntime
        (hashedTexts plainRuntime "creds" (leakedUnder "email" "alice@acme.fr") ++
          hashedTexts plainRuntime "creds" (leakedUnder "email" "bob@acme.fr")) ∧
      ¬ (DistinctLeaks plainRuntime.unicode "creds" (leakedUnder "email" "alice@acme.fr")
          (leakedUnder "email" "bob@acme.fr") →
        (normalizeFinding plainRuntime "creds" (leakedUnder "email" "alice@acme.fr")).dedupHash ≠
          (normalizeFinding plainRuntime "creds" (leakedUnder "email" "bob@acme.fr")).dedupHash) := by
  refine ⟨by decide +kernel, fun separated => ?_⟩
  have identifiers : extractIdentifier plainRuntime.unicode "creds"
        (.obj (leakedUnder "email" "alice@acme.fr")) ≠
      extractIdentifier plainRuntime.unicode "creds"
        (.obj (leakedUnder "email" "bob@acme.fr")) := by decide +kernel
  exact separated (Or.inl identifiers) (by decide +kernel)

end Samples

end RssiService.ThreatIntelligence
