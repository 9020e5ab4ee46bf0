import RssiService.Python.Url

/-!
# Requests to hosts of others

A check opens a URL that a client wrote, and follows the redirects of its host.  Each URL is
validated before it is opened: an `http` scheme, a host, and public addresses only.  The network
answers as it likes, and no two lookups of a host need give the same addresses.
-/

namespace RssiService.Monitoring

open Python

/-- An address, as `ipaddress` describes it. -/
structure IpAddress where
  text : String
  isPrivate : Bool
  isLoopback : Bool
  isLinkLocal : Bool
  isReserved : Bool
  isMulticast : Bool
  isUnspecified : Bool

def isUnsafeIp (ip : IpAddress) : Bool :=
  ip.isPrivate || ip.isLoopback || ip.isLinkLocal || ip.isReserved || ip.isMulticast ||
    ip.isUnspecified

inductive SsrfError where
  | noHostName
  | unresolved (hostname : String)
  | noAddress (hostname : String)
  | forbidden (hostname address : String)
  | scheme (scheme : String)
  | noHost (url : String)

inductive Failure where
  | ssrf (error : SsrfError)
  | network (message : String)
  /-- An exception that the caller does not expect: a malformed URL is a `ValueError`. -/
  | uncaught

structure Response where
  status : Nat
  location : Option String

/-- `response.is_redirect`, with a `Location` that is not empty. -/
def Response.redirect? (response : Response) : Option String :=
  if [301, 302, 303, 307, 308].contains response.status then response.location.filter (· ≠ "")
  else none

/-- What the network answers, at each turn of the loop.  `none` is an exception that is not the
one the caller expects. -/
structure Network where
  unicode : Unicode
  getaddrinfo : Nat → String → Option (Except Unit (List IpAddress))
  get : Nat → String → Option (Except String Response)
  urljoin : String → String → Option String

variable (network : Network)

def resolveSafeHost (turn : Nat) (hostname : String) : Except Failure (List IpAddress) :=
  if hostname = "" then .error (.ssrf .noHostName)
  else
    match network.getaddrinfo turn hostname with
    | none => .error .uncaught
    | some (.error _) => .error (.ssrf (.unresolved hostname))
    | some (.ok []) => .error (.ssrf (.noAddress hostname))
    | some (.ok resolved) =>
        match resolved.find? isUnsafeIp with
        | some ip => .error (.ssrf (.forbidden hostname ip.text))
        | none => .ok resolved

def allowedSchemes : List String := ["http", "https"]

def validateUrl (turn : Nat) (url : String) : Except Failure String :=
  match Url.hostname network.unicode url with
  | none => .error .uncaught
  | some host =>
      if Url.scheme url ∉ allowedSchemes then .error (.ssrf (.scheme (Url.scheme url)))
      else
        match host.filter (· ≠ "") with
        | none => .error (.ssrf (.noHost url))
        | some host => (resolveSafeHost network turn host).map fun _ => host

def maxRedirects : Nat := 5

/-- The loop, from one of its turns on, with the URLs that it opens. -/
def followRedirects (start : String) : Nat → Nat → String → Except Failure Response × List String
  | 0, _, _ =>
      (.error (.network s!"Trop de redirections (> {maxRedirects}) depuis '{start}'."), [])
  | turns + 1, turn, url =>
      match validateUrl network turn url with
      | .error failure => (.error failure, [])
      | .ok _ =>
          match network.get turn url with
          | none => (.error .uncaught, [url])
          | some (.error message) => (.error (.network message), [url])
          | some (.ok response) =>
              match response.redirect? with
              | none => (.ok response, [url])
              | some location =>
                  match network.urljoin url location with
                  | none => (.error .uncaught, [url])
                  | some next =>
                      let (outcome, opened) := followRedirects start turns (turn + 1) next
                      (outcome, url :: opened)

def safeGet (url : String) : Except Failure Response × List String :=
  followRedirects network url (maxRedirects + 1) 0 url

/-! ## What is opened -/

/-- The addresses of the host were looked up in this turn, and none is of a private network. -/
def Validated (turn : Nat) (url : String) : Prop :=
  Url.scheme url ∈ allowedSchemes ∧ ∃ host addresses,
    Url.hostname network.unicode url = some (some host) ∧
      network.getaddrinfo turn host = some (.ok addresses) ∧ addresses ≠ [] ∧
      ∀ address ∈ addresses, isUnsafeIp address = false

/-- What is opened from a turn on, and what is returned: a URL is opened in the turn in which it is
validated, and the next one is where it redirects. -/
inductive Journey : Nat → String → Except Failure Response → List String → Prop where
  | refused (turn : Nat) (url : String) (failure : Failure) : Journey turn url (.error failure) []
  | stopped {turn : Nat} {url : String} (valid : Validated network turn url) (failure : Failure) :
      Journey turn url (.error failure) [url]
  | answered {turn : Nat} {url : String} {response : Response}
      (valid : Validated network turn url) (answer : network.get turn url = some (.ok response))
      (final : response.redirect? = none) : Journey turn url (.ok response) [url]
  | moved {turn : Nat} {url location next : String} {response : Response}
      {outcome : Except Failure Response} {opened : List String}
      (valid : Validated network turn url) (answer : network.get turn url = some (.ok response))
      (moves : response.redirect? = some location)
      (joined : network.urljoin url location = some next)
      (later : Journey (turn + 1) next outcome opened) : Journey turn url outcome (url :: opened)

variable {network} {turn : Nat} {url : String}

theorem validated_of_ok {host : String} (valid : validateUrl network turn url = .ok host) :
    Validated network turn url := by
  unfold validateUrl at valid
  split at valid
  · cases valid
  · rename_i found parsed
    split at valid
    · cases valid
    · rename_i allowed
      split at valid
      · cases valid
      · rename_i host named
        obtain ⟨known, -⟩ := Option.filter_eq_some_iff.mp named
        refine ⟨not_not.mp allowed, host, ?_⟩
        unfold resolveSafeHost at valid
        split at valid
        · cases valid
        · split at valid
          · cases valid
          · cases valid
          · cases valid
          · rename_i resolved some_address looked
            split at valid
            · cases valid
            · rename_i safe
              refine ⟨resolved, parsed.trans (congrArg some known), looked, some_address, ?_⟩
              intro address listed
              simpa using List.find?_eq_none.mp safe address listed

theorem journey_followRedirects (start : String) (turns turn : Nat) (url : String) :
    Journey network turn url (followRedirects network start turns turn url).1
        (followRedirects network start turns turn url).2 ∧
      (followRedirects network start turns turn url).2.length ≤ turns := by
  induction turns generalizing turn url with
  | zero => exact ⟨.refused turn url _, Nat.le_refl 0⟩
  | succ turns ih =>
      unfold followRedirects
      split
      · exact ⟨.refused turn url _, Nat.zero_le _⟩
      · rename_i validated
        have valid := validated_of_ok validated
        split
        · exact ⟨.stopped valid _, Nat.le_add_left 1 turns⟩
        · exact ⟨.stopped valid _, Nat.le_add_left 1 turns⟩
        · rename_i answer
          split
          · rename_i final
            exact ⟨.answered valid answer final, Nat.le_add_left 1 turns⟩
          · rename_i moves
            split
            · exact ⟨.stopped valid _, Nat.le_add_left 1 turns⟩
            · rename_i next joined
              obtain ⟨later, few⟩ := ih (turn + 1) next
              exact ⟨.moved valid answer moves joined later, Nat.succ_le_succ few⟩

/-- Whatever the network answers, a check opens six URLs at most, each one in the turn in which its
host is looked up and has public addresses only; each is the redirect of the one before, and what
is returned is the answer of the last, which redirects no further. -/
theorem safeGet_opens_validated (network : Network) (url : String) :
    Journey network 0 url (safeGet network url).1 (safeGet network url).2 ∧
      (safeGet network url).2.length ≤ maxRedirects + 1 :=
  journey_followRedirects url (maxRedirects + 1) 0 url

end RssiService.Monitoring
