import RssiService.ThreatIntelligence.Normalizer

/-!
# The client of the provider

One request is tried up to four times; a query asks for page after page; a scan
queries every endpoint.  What the provider answers is given, attempt by attempt,
and each computation carries the number of requests it really sends beside the
number it reports.
-/

namespace RssiService.ThreatIntelligence

open Python

/-! ## Attempts -/

inductive Content where
  | empty
  | unreadable
  | json (value : Json)

structure Response where
  statusCode : Nat
  text : String
  content : Content

inductive ClientError where
  | badRequest (message : String)
  | auth (message : String)
  | forbidden (message : String)
  | validation (message : String)
  | rateLimit (message : String)
  | server (message : String)
  | other (message : String)
  | network (message : String)
  | unreadableBody

/-- What becomes of one attempt: nothing is sent for want of a token or of a
connection, the answer does not arrive, or it does. -/
inductive Attempt where
  | unsent (message : String)
  | lost (message : String)
  | answered (response : Response)

def Attempt.sent : Attempt → Nat
  | .unsent _ => 0
  | .lost _ | .answered _ => 1

def Response.isSuccess (response : Response) : Bool :=
  response.statusCode = 200 || response.statusCode = 206

def statusToError (status : Nat) : String → ClientError :=
  if status = 400 then .badRequest
  else if status = 401 then .auth
  else if status = 403 then .forbidden
  else if status = 422 then .validation
  else if status = 429 then .rateLimit
  else if status = 500 then .server
  else .other

def raiseForStatus (response : Response) : ClientError :=
  statusToError response.statusCode
    s!"Breachsense a répondu {response.statusCode} : {takeChars response.text 500}"

def Attempt.outcome : Attempt → Except ClientError Response
  | .unsent message | .lost message => .error (.network message)
  | .answered response =>
      if response.isSuccess then .ok response else .error (raiseForStatus response)

/-- Network failures are tried again, and so are the answers 429 and 500. -/
def Attempt.isRetried : Attempt → Bool
  | .unsent _ | .lost _ => true
  | .answered response => response.statusCode = 429 || response.statusCode = 500

/-! ## Computations that send requests -/

/-- A result or an error, with the number of requests sent on the way. -/
structure Sending (Result : Type) where
  outcome : Except ClientError Result
  sent : Nat

namespace Sending

variable {First Second : Type}

def done (result : First) : Sending First := ⟨.ok result, 0⟩

/-- An error stops the computation; what was sent stays sent. -/
def andThen (first : Sending First) (next : First → Sending Second) : Sending Second :=
  match first.outcome with
  | .error error => ⟨.error error, first.sent⟩
  | .ok result =>
      let later := next result
      ⟨later.outcome, first.sent + later.sent⟩

theorem andThen_eq_ok {first : Sending First} {next : First → Sending Second} {result : Second} :
    (first.andThen next).outcome = .ok result ↔
      ∃ found, first.outcome = .ok found ∧ (next found).outcome = .ok result := by
  rw [andThen]
  cases first.outcome with
  | error error => simp
  | ok found => simp

theorem sent_andThen {first : Sending First} {next : First → Sending Second} {found : First}
    (ok : first.outcome = .ok found) :
    (first.andThen next).sent = first.sent + (next found).sent := by
  rw [andThen, ok]

theorem sent_andThen_eq_zero {first : Sending First} {next : First → Sending Second} :
    (first.andThen next).sent = 0 ↔
      first.sent = 0 ∧ ∀ found, first.outcome = .ok found → (next found).sent = 0 := by
  rw [andThen]
  cases first.outcome with
  | error error => simp
  | ok found => simp

end Sending

/-! ## Requests -/

def maxRetries : Nat := 3

/-- `_request_with_retries` from one attempt on, with what is left to retry. -/
def requestFrom (attempts : Nat → Attempt) : Nat → Nat → Sending Response
  | 0, attempt => ⟨(attempts attempt).outcome, (attempts attempt).sent⟩
  | retries + 1, attempt =>
      if (attempts attempt).isRetried then
        let later := requestFrom attempts retries (attempt + 1)
        ⟨later.outcome, (attempts attempt).sent + later.sent⟩
      else ⟨(attempts attempt).outcome, (attempts attempt).sent⟩

def requestWithRetries (attempts : Nat → Attempt) : Sending Response :=
  requestFrom attempts maxRetries 0

/-! ## Pages -/

def maxPaginationPages : Nat := 20

/-- What a loop over a decoded value goes through: the items of a list, the
characters of a text, the keys of an object; anything else raises. -/
def iterate : Json → Option (List Json)
  | .arr items => some items
  | .str text => some (text.toList.map fun symbol => .str (String.ofList [symbol]))
  | .obj fields => some (fields.map fun field => .str field.1)
  | _ => none

/-- `body.get("results", body.get("data", []))`, for a body that is an object. -/
def resultsOf (fields : List (String × Json)) : Json :=
  (fields.lookup "results").getD ((fields.lookup "data").getD (.arr []))

/-- The items of an answer, or none where they cannot be read. -/
def Response.items? (response : Response) : Option (List Json) :=
  match response.content with
  | .empty => some []
  | .unreadable => none
  | .json (.arr items) => some items
  | .json (.obj fields) => iterate (resultsOf fields)
  | .json _ => some []

def readItems (response : Response) : Sending (List Json) :=
  match response.items? with
  | none => ⟨.error .unreadableBody, 0⟩
  | some items => .done items

/-- One page: its status and its items. -/
def fetchPage (attempts : Nat → Attempt) : Sending (Nat × List Json) :=
  (requestWithRetries attempts).andThen fun response =>
  (readItems response).andThen fun items => .done (response.statusCode, items)

/-- The pages from one on, with what is left below the cap; the count is one for
each page. -/
def pagesFrom (pages : Nat → Nat → Attempt) : Nat → Nat → Sending (List Json × Nat)
  | 0, page => (fetchPage (pages page)).andThen fun fetched => .done (fetched.2, 1)
  | left + 1, page =>
      (fetchPage (pages page)).andThen fun fetched =>
      if fetched.1 = 200 then .done (fetched.2, 1)
      else (pagesFrom pages left (page + 1)).andThen fun later =>
        .done (fetched.2 ++ later.1, 1 + later.2)

def getPaginated (pages : Nat → Nat → Attempt) : Sending (List Json × Nat) :=
  pagesFrom pages (maxPaginationPages - 1) 1

/-! ## Scans -/

/-- The answers of the provider, by endpoint, page and attempt. -/
abbrev Answers := SourceEndpoint → Nat → Nat → Attempt

/-- What a scan found, by endpoint, and the number of requests it reports. -/
structure ScanResult where
  findings : List (SourceEndpoint × Json)
  requestsConsumed : Nat

def scanFrom (answers : Answers) : List SourceEndpoint → Sending ScanResult
  | [] => .done ⟨[], 0⟩
  | endpoint :: rest =>
      (getPaginated (answers endpoint)).andThen fun page =>
      (scanFrom answers rest).andThen fun later =>
        .done ⟨page.1.map (fun item => (endpoint, item)) ++ later.findings,
          page.2 + later.requestsConsumed⟩

/-- `_scan`: every endpoint, or nothing where one of them fails. -/
def scan (answers : Answers) : Sending ScanResult := scanFrom answers queryEndpoints

/-! ## Requests that are counted -/

/-- An answer that the first request sent obtains. -/
def AnsweredAtOnce (attempts : Nat → Attempt) (response : Response) : Prop :=
  ∃ last ≤ maxRetries, attempts last = .answered response ∧ response.isSuccess = true ∧
    ∀ attempt < last, (attempts attempt).sent = 0

/-- No request is sent at all. -/
def NothingSent (attempts : Nat → Attempt) : Prop :=
  ∀ attempt ≤ maxRetries, (attempts attempt).sent = 0

/-- Every page asked for, from one on, is obtained by the first request sent and
can be read. -/
def PagesAtOnce (pages : Nat → Nat → Attempt) : Nat → Nat → Prop
  | 0, page =>
      ∃ response, AnsweredAtOnce (pages page) response ∧ response.items?.isSome = true
  | left + 1, page =>
      ∃ response, AnsweredAtOnce (pages page) response ∧ response.items?.isSome = true ∧
        (response.statusCode = 200 ∨ PagesAtOnce pages left (page + 1))

/-- Every page of every endpoint is obtained by the first request sent. -/
def AllAtOnce (answers : Answers) : Prop :=
  ∀ endpoint ∈ queryEndpoints, PagesAtOnce (answers endpoint) (maxPaginationPages - 1) 1

section Requests

variable {attempts : Nat → Attempt}

theorem isRetried_of_unsent {attempt : Attempt} (unsent : attempt.sent = 0) :
    attempt.isRetried = true := by
  cases attempt with
  | unsent message => rfl
  | lost message => cases unsent
  | answered response => cases unsent

theorem outcome_eq_ok {attempt : Attempt} {response : Response} :
    attempt.outcome = .ok response ↔ attempt = .answered response ∧ response.isSuccess = true := by
  cases attempt with
  | unsent message => simp [Attempt.outcome]
  | lost message => simp [Attempt.outcome]
  | answered other =>
      rw [Attempt.outcome]
      split
      · rename_i success
        constructor
        · intro same
          cases same
          exact ⟨rfl, success⟩
        · rintro ⟨same, _⟩
          cases same
          rfl
      · rename_i failure
        refine iff_of_false (by rintro ⟨⟩) ?_
        rintro ⟨same, success⟩
        cases same
        exact failure success

theorem not_retried_of_success {response : Response} (success : response.isSuccess = true) :
    (Attempt.answered response).isRetried = false := by
  simp only [Response.isSuccess, Bool.or_eq_true, decide_eq_true_eq] at success
  simp only [Attempt.isRetried, Bool.or_eq_false_iff, decide_eq_false_iff_not]
  omega

/-- The first index that is found, after indices that are all skipped: it is the
next one, or the next one is skipped too. -/
theorem exists_until_succ {found skipped : Nat → Prop} {bound : Nat} :
    (∃ last ≤ bound + 1, found last ∧ ∀ tried < last, skipped tried) ↔
      found 0 ∨ (skipped 0 ∧
        ∃ last ≤ bound, found (last + 1) ∧ ∀ tried < last, skipped (tried + 1)) := by
  constructor
  · rintro ⟨last, le, here, before⟩
    cases last with
    | zero => exact Or.inl here
    | succ last =>
        rw [Nat.forall_lt_succ_left] at before
        exact Or.inr ⟨before.1, last, Nat.le_of_succ_le_succ le, here, before.2⟩
  · rintro (here | ⟨first, last, le, here, before⟩)
    · exact ⟨0, Nat.zero_le _, here, fun tried below => absurd below (Nat.not_lt_zero tried)⟩
    · exact ⟨last + 1, Nat.succ_le_succ le, here, Nat.forall_lt_succ_left.mpr ⟨first, before⟩⟩

/-- From one attempt on, nothing is sent where no attempt left is sent. -/
theorem sent_requestFrom_eq_zero {retries : Nat} : ∀ {attempt : Nat},
    (requestFrom attempts retries attempt).sent = 0 ↔
      ∀ tried < retries + 1, (attempts (attempt + tried)).sent = 0 := by
  induction retries with
  | zero =>
      intro attempt
      simp [requestFrom]
  | succ retries ih =>
      intro attempt
      rw [requestFrom, Nat.forall_lt_succ_left]
      split
      · rw [Nat.add_eq_zero_iff, ih]
        simp only [Nat.add_zero, Nat.add_assoc, Nat.add_comm 1]
      · rename_i final
        refine iff_of_false ?_ ?_
        · exact fun unsent => final (isRetried_of_unsent unsent)
        · exact fun all => final (isRetried_of_unsent all.1)

/-- An answer is one that was sent for. -/
theorem answered_requestFrom {response : Response} {retries : Nat} : ∀ {attempt : Nat},
    (requestFrom attempts retries attempt).outcome = .ok response →
      response.isSuccess = true ∧ 1 ≤ (requestFrom attempts retries attempt).sent := by
  have here {attempt : Nat} (ok : (attempts attempt).outcome = .ok response) :
      response.isSuccess = true ∧ 1 ≤ (attempts attempt).sent := by
    obtain ⟨answered, success⟩ := outcome_eq_ok.mp ok
    refine ⟨success, ?_⟩
    rw [answered]
    exact Nat.le_refl 1
  induction retries with
  | zero => exact here
  | succ retries ih =>
      intro attempt
      rw [requestFrom]
      split
      · intro ok
        obtain ⟨success, sent⟩ := ih ok
        exact ⟨success, Nat.le_add_left_of_le sent⟩
      · exact here

/-- The last attempt obtains an answer, with its one request. -/
theorem attempt_once_iff {attempt : Attempt} {response : Response} :
    (attempt.outcome = .ok response ∧ attempt.sent = 1) ↔
      attempt = .answered response ∧ response.isSuccess = true := by
  rw [outcome_eq_ok, and_iff_left_of_imp]
  rintro ⟨rfl, _⟩
  rfl

/-- From one attempt on, an answer costs one request where no attempt before it
was sent. -/
theorem requestFrom_once_iff {response : Response} {retries : Nat} : ∀ {attempt : Nat},
    ((requestFrom attempts retries attempt).outcome = .ok response ∧
        (requestFrom attempts retries attempt).sent = 1) ↔
      ∃ last ≤ retries, (attempts (attempt + last) = .answered response ∧
        response.isSuccess = true) ∧ ∀ tried < last, (attempts (attempt + tried)).sent = 0 := by
  induction retries with
  | zero =>
      intro attempt
      simp [requestFrom, attempt_once_iff]
  | succ retries ih =>
      intro attempt
      have later := @ih (attempt + 1)
      simp only [Nat.add_assoc, Nat.add_comm 1] at later
      rw [requestFrom, exists_until_succ, ← later]
      simp only [Nat.add_zero]
      split
      · rename_i retried
        constructor
        · rintro ⟨ok, once⟩
          have paid := (answered_requestFrom ok).2
          dsimp only at ok once
          exact Or.inr ⟨by omega, ok, by omega⟩
        · rintro (⟨answered, success⟩ | ⟨unsent, ok, once⟩)
          · rw [answered, not_retried_of_success success] at retried
            cases retried
          · exact ⟨ok, by dsimp only; omega⟩
      · rename_i final
        rw [attempt_once_iff]
        refine (or_iff_left ?_).symm
        rintro ⟨unsent, _⟩
        exact final (isRetried_of_unsent unsent)

theorem request_once_iff {response : Response} :
    ((requestWithRetries attempts).outcome = .ok response ∧
        (requestWithRetries attempts).sent = 1) ↔ AnsweredAtOnce attempts response := by
  rw [requestWithRetries, requestFrom_once_iff, AnsweredAtOnce]
  simp only [Nat.zero_add, and_assoc]

theorem sent_request_eq_zero :
    (requestWithRetries attempts).sent = 0 ↔ NothingSent attempts := by
  rw [requestWithRetries, sent_requestFrom_eq_zero, NothingSent]
  simp only [Nat.zero_add, Nat.lt_succ_iff]

end Requests

/-! ## Exact counts -/

section Counts

variable {attempts : Nat → Attempt} {pages : Nat → Nat → Attempt} {answers : Answers}

theorem readItems_eq_ok {response : Response} {items : List Json} :
    (readItems response).outcome = .ok items ↔ response.items? = some items := by
  rw [readItems]
  cases response.items? with
  | none => simp
  | some found => simp [Sending.done]

theorem sent_readItems (response : Response) : (readItems response).sent = 0 := by
  rw [readItems]
  cases response.items? <;> rfl

theorem fetchPage_eq_ok {fetched : Nat × List Json} :
    (fetchPage attempts).outcome = .ok fetched ↔
      ∃ response, (requestWithRetries attempts).outcome = .ok response ∧
        response.items? = some fetched.2 ∧ response.statusCode = fetched.1 := by
  rw [fetchPage, Sending.andThen_eq_ok]
  refine exists_congr fun response => and_congr_right fun _ => ?_
  rw [Sending.andThen_eq_ok]
  constructor
  · rintro ⟨items, read, same⟩
    cases same
    exact ⟨readItems_eq_ok.mp read, rfl⟩
  · rintro ⟨read, same⟩
    refine ⟨fetched.2, readItems_eq_ok.mpr read, ?_⟩
    rw [same]
    rfl

theorem sent_fetchPage : (fetchPage attempts).sent = (requestWithRetries attempts).sent := by
  rw [fetchPage]
  cases outcome : (requestWithRetries attempts).outcome with
  | error error => rw [Sending.andThen, outcome]
  | ok response =>
      rw [Sending.sent_andThen outcome]
      cases read : (readItems response).outcome with
      | error error => rw [Sending.andThen, read, sent_readItems, Nat.add_zero]
      | ok items =>
          rw [Sending.sent_andThen read, sent_readItems]
          rfl

theorem paid_fetchPage {fetched : Nat × List Json} (ok : (fetchPage attempts).outcome = .ok fetched) :
    1 ≤ (fetchPage attempts).sent := by
  obtain ⟨response, answered, _⟩ := fetchPage_eq_ok.mp ok
  rw [sent_fetchPage]
  exact (answered_requestFrom answered).2

/-- The count of the pages is one for each page, and one request at least was
sent for each. -/
theorem pagesFrom_count {left : Nat} : ∀ {page : Nat} {result : List Json × Nat},
    (pagesFrom pages left page).outcome = .ok result →
      1 ≤ result.2 ∧ result.2 ≤ (pagesFrom pages left page).sent := by
  induction left with
  | zero =>
      intro page result ok
      rw [pagesFrom] at ok ⊢
      obtain ⟨fetched, fetch, same⟩ := Sending.andThen_eq_ok.mp ok
      cases same
      rw [Sending.sent_andThen fetch]
      exact ⟨Nat.le_refl 1, Nat.le_add_right_of_le (paid_fetchPage fetch)⟩
  | succ left ih =>
      intro page result ok
      rw [pagesFrom] at ok ⊢
      obtain ⟨fetched, fetch, rest⟩ := Sending.andThen_eq_ok.mp ok
      have paid := paid_fetchPage fetch
      rw [Sending.sent_andThen fetch]
      split at rest
      · cases rest
        exact ⟨Nat.le_refl 1, Nat.le_add_right_of_le paid⟩
      · rename_i more
        obtain ⟨later, continued, same⟩ := Sending.andThen_eq_ok.mp rest
        cases same
        rw [if_neg more, Sending.sent_andThen continued]
        have := ih continued
        refine ⟨Nat.le_add_right 1 _, ?_⟩
        dsimp only
        omega

/-- A page costs one request where its answer is obtained at once. -/
theorem fetchPage_once_iff {fetched : Nat × List Json} :
    ((fetchPage attempts).outcome = .ok fetched ∧ (fetchPage attempts).sent = 1) ↔
      ∃ response, AnsweredAtOnce attempts response ∧ response.items? = some fetched.2 ∧
        response.statusCode = fetched.1 := by
  rw [fetchPage_eq_ok, sent_fetchPage]
  constructor
  · rintro ⟨⟨response, answered, read, status⟩, once⟩
    exact ⟨response, request_once_iff.mp ⟨answered, once⟩, read, status⟩
  · rintro ⟨response, atOnce, read, status⟩
    obtain ⟨answered, once⟩ := request_once_iff.mpr atOnce
    exact ⟨⟨response, answered, read, status⟩, once⟩

theorem fetchPage_at_once {response : Response} {items : List Json}
    (atOnce : AnsweredAtOnce attempts response) (read : response.items? = some items) :
    (fetchPage attempts).outcome = .ok (response.statusCode, items) ∧
      (fetchPage attempts).sent = 1 :=
  fetchPage_once_iff.mpr ⟨response, atOnce, read, rfl⟩

/-- A page and what follows it are counted in full where the page is obtained at
once and counted as one. -/
theorem fetchPage_exact_iff {next : Nat × List Json → Sending (List Json × Nat)}
    (bounded : ∀ fetched result, (next fetched).outcome = .ok result →
      result.2 ≤ 1 + (next fetched).sent) :
    (∃ result, ((fetchPage attempts).andThen next).outcome = .ok result ∧
        result.2 = ((fetchPage attempts).andThen next).sent) ↔
      ∃ response, AnsweredAtOnce attempts response ∧ ∃ items, response.items? = some items ∧
        ∃ result, (next (response.statusCode, items)).outcome = .ok result ∧
          result.2 = 1 + (next (response.statusCode, items)).sent := by
  constructor
  · rintro ⟨result, ok, exact_count⟩
    obtain ⟨⟨status, items⟩, fetch, rest⟩ := Sending.andThen_eq_ok.mp ok
    have paid := paid_fetchPage fetch
    have below := bounded _ result rest
    rw [Sending.sent_andThen fetch] at exact_count
    obtain ⟨response, atOnce, read, rfl⟩ := fetchPage_once_iff.mp ⟨fetch, by omega⟩
    exact ⟨response, atOnce, items, read, result, rest, by omega⟩
  · rintro ⟨response, atOnce, items, read, result, rest, exact_count⟩
    obtain ⟨fetch, once⟩ := fetchPage_at_once atOnce read
    refine ⟨result, Sending.andThen_eq_ok.mpr ⟨_, fetch, rest⟩, ?_⟩
    rw [Sending.sent_andThen fetch, once, exact_count]

/-- Going on to the next page counts this one as one, and the later ones in full
where they are. -/
theorem continued_exact_iff {items : List Json} {later : Sending (List Json × Nat)} :
    (∃ result, (later.andThen fun found => .done (items ++ found.1, 1 + found.2)).outcome =
          .ok result ∧
        result.2 = 1 + (later.andThen fun found => .done (items ++ found.1, 1 + found.2)).sent) ↔
      ∃ result, later.outcome = .ok result ∧ result.2 = later.sent := by
  constructor
  · rintro ⟨result, ok, exact_count⟩
    obtain ⟨found, continued, same⟩ := Sending.andThen_eq_ok.mp ok
    cases same
    rw [Sending.sent_andThen continued] at exact_count
    exact ⟨found, continued, Nat.add_left_cancel exact_count⟩
  · rintro ⟨found, continued, exact_count⟩
    refine ⟨_, Sending.andThen_eq_ok.mpr ⟨found, continued, rfl⟩, ?_⟩
    rw [Sending.sent_andThen continued, exact_count]
    rfl

/-- The pages are counted in full exactly where each is obtained at once. -/
theorem pagesFrom_exact_iff {left : Nat} : ∀ {page : Nat},
    (∃ result, (pagesFrom pages left page).outcome = .ok result ∧
        result.2 = (pagesFrom pages left page).sent) ↔ PagesAtOnce pages left page := by
  induction left with
  | zero =>
      intro page
      rw [pagesFrom, PagesAtOnce, fetchPage_exact_iff]
      · refine exists_congr fun response => and_congr_right fun _ => ?_
        rw [Option.isSome_iff_exists]
        exact exists_congr fun items => and_iff_left ⟨(items, 1), rfl, rfl⟩
      · intro fetched result same
        cases same
        exact Nat.le_refl 1
  | succ left ih =>
      intro page
      rw [pagesFrom, PagesAtOnce, fetchPage_exact_iff]
      · refine exists_congr fun response => and_congr_right fun _ => ?_
        rw [← ih, Option.isSome_iff_exists, ← exists_and_right]
        refine exists_congr fun items => and_congr_right fun _ => ?_
        dsimp only
        split
        · rename_i final
          exact iff_of_true ⟨(items, 1), rfl, rfl⟩ (Or.inl final)
        · rename_i more
          rw [or_iff_right more]
          exact continued_exact_iff
      · intro fetched result ok
        split at ok
        · cases ok
          exact Nat.le_add_right 1 _
        · rename_i more
          obtain ⟨later, continued, same⟩ := Sending.andThen_eq_ok.mp ok
          cases same
          have below := (pagesFrom_count continued).2
          rw [if_neg more, Sending.sent_andThen continued]
          dsimp only
          omega

/-- Nothing is sent for a query where nothing is sent for its first page. -/
theorem sent_pagesFrom_eq_zero {left page : Nat} :
    (pagesFrom pages left page).sent = 0 ↔ NothingSent (pages page) := by
  have stops : (fetchPage (pages page)).sent = 0 ↔ NothingSent (pages page) := by
    rw [sent_fetchPage, sent_request_eq_zero]
  cases left with
  | zero =>
      rw [pagesFrom, Sending.sent_andThen_eq_zero, stops]
      exact and_iff_left fun _ _ => rfl
  | succ left =>
      rw [pagesFrom, Sending.sent_andThen_eq_zero, ← stops]
      refine and_iff_left_of_imp fun unpaid fetched fetch => ?_
      exact absurd (paid_fetchPage fetch) (by omega)

/-- A scan that ends reports a request for each endpoint at least, and no more
than it sent. -/
theorem scanFrom_count {endpoints : List SourceEndpoint} : ∀ {result : ScanResult},
    (scanFrom answers endpoints).outcome = .ok result →
      endpoints.length ≤ result.requestsConsumed ∧
        result.requestsConsumed ≤ (scanFrom answers endpoints).sent := by
  induction endpoints with
  | nil =>
      intro result ok
      cases ok
      exact ⟨Nat.le_refl 0, Nat.le_refl 0⟩
  | cons endpoint rest ih =>
      intro result ok
      rw [scanFrom] at ok ⊢
      obtain ⟨queried, query, others⟩ := Sending.andThen_eq_ok.mp ok
      obtain ⟨later, scanned, same⟩ := Sending.andThen_eq_ok.mp others
      cases same
      have here := pagesFrom_count query
      have there := ih scanned
      rw [Sending.sent_andThen query, Sending.sent_andThen scanned]
      dsimp only [Sending.done, List.length_cons, getPaginated] at *
      omega

/-- A scan is counted in full exactly where each page is obtained at once. -/
theorem scanFrom_exact_iff {endpoints : List SourceEndpoint} :
    (∃ result, (scanFrom answers endpoints).outcome = .ok result ∧
        result.requestsConsumed = (scanFrom answers endpoints).sent) ↔
      ∀ endpoint ∈ endpoints, PagesAtOnce (answers endpoint) (maxPaginationPages - 1) 1 := by
  induction endpoints with
  | nil => exact iff_of_true ⟨_, rfl, rfl⟩ (fun _ member => absurd member List.not_mem_nil)
  | cons endpoint rest ih =>
      rw [scanFrom, List.forall_mem_cons, ← ih, ← pagesFrom_exact_iff]
      constructor
      · rintro ⟨result, ok, exact_count⟩
        obtain ⟨queried, query, others⟩ := Sending.andThen_eq_ok.mp ok
        obtain ⟨later, scanned, same⟩ := Sending.andThen_eq_ok.mp others
        cases same
        have here := (pagesFrom_count query).2
        have there := (scanFrom_count scanned).2
        rw [Sending.sent_andThen query, Sending.sent_andThen scanned] at exact_count
        dsimp only [Sending.done, getPaginated] at exact_count here
        exact ⟨⟨queried, query, by omega⟩, ⟨later, scanned, by omega⟩⟩
      · rintro ⟨⟨queried, query, here⟩, ⟨later, scanned, there⟩⟩
        have query' : (getPaginated (answers endpoint)).outcome = .ok queried := query
        refine ⟨_, Sending.andThen_eq_ok.mpr
          ⟨queried, query', Sending.andThen_eq_ok.mpr ⟨later, scanned, rfl⟩⟩, ?_⟩
        rw [Sending.sent_andThen query', Sending.sent_andThen scanned, there, here]
        rfl

theorem sent_scan_eq_zero : (scan answers).sent = 0 ↔ NothingSent (answers .stealer 1) := by
  rw [scan, queryEndpoints, scanFrom, Sending.sent_andThen_eq_zero, getPaginated,
    sent_pagesFrom_eq_zero]
  refine and_iff_left_of_imp fun nothing queried query => ?_
  have paid := pagesFrom_count query
  rw [sent_pagesFrom_eq_zero.mpr nothing] at paid
  omega

/-- What a scan reports; a scan that fails reports nothing. -/
def reportedBy (answers : Answers) : Nat :=
  match (scan answers).outcome with
  | .error _ => 0
  | .ok result => result.requestsConsumed

theorem reportedBy_le_sent (answers : Answers) : reportedBy answers ≤ (scan answers).sent := by
  rw [reportedBy]
  cases outcome : (scan answers).outcome with
  | error error => exact Nat.zero_le _
  | ok result => exact (scanFrom_count outcome).2

/-- A scan reports what it sends exactly where every page is obtained at once,
or where it fails before it sends anything. -/
theorem reportedBy_eq_sent_iff (answers : Answers) :
    reportedBy answers = (scan answers).sent ↔
      AllAtOnce answers ∨ NothingSent (answers .stealer 1) := by
  rw [AllAtOnce, ← scanFrom_exact_iff, ← sent_scan_eq_zero, ← scan, reportedBy]
  cases outcome : (scan answers).outcome with
  | error error => simp [eq_comm]
  | ok result =>
      have paid := (scanFrom_count outcome).1
      have sent := (scanFrom_count outcome).2
      rw [← scan] at sent
      simp only [queryEndpoints, List.length_cons, List.length_nil] at paid
      simp only [Except.ok.injEq, exists_eq_left']
      omega

end Counts

end RssiService.ThreatIntelligence
