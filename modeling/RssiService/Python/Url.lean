import RssiService.Python.Text

/-!
# The host of a URL

`urlparse` as the application uses it: the network location of a URL, the
refusals it raises as a `ValueError`, and the host name.
-/

namespace RssiService.Python.Url

/-- Leading control characters and spaces, which `urlsplit` drops. -/
def isControlOrSpace (symbol : Char) : Bool :=
  symbol.toNat ≤ 32

def isSchemeChar (symbol : Char) : Bool :=
  symbol.isAlphanum || symbol = '+' || symbol = '-' || symbol = '.'

def isHexDigit (symbol : Char) : Bool :=
  symbol.isDigit || ('a' ≤ symbol && symbol ≤ 'f') || ('A' ≤ symbol && symbol ≤ 'F')

/-! ## Bracketed hosts -/

def isIPv4 (text : List Char) : Bool :=
  let octets := splitChar '.' text
  octets.length = 4 && octets.all fun octet =>
    !octet.isEmpty && octet.all Char.isDigit && octet.length ≤ 3 &&
      !(octet.length ≥ 2 && octet.head? = some '0') && Nat.ofDigitChars 10 octet 0 ≤ 255

/-- The groups of an IPv6 text, a dotted tail counting for two groups. -/
def ipv6Groups (text : List Char) : Option (List (List Char)) :=
  let parts := splitChar ':' text
  if parts.length < 3 then none
  else
    let last := parts.getLastD []
    if last.contains '.' then
      if isIPv4 last then some (parts.dropLast ++ [['0'], ['0']]) else none
    else some parts

def isHextet (text : List Char) : Bool :=
  !text.isEmpty && text.all isHexDigit && text.length ≤ 4

/-- Groups around at most one `::`, eight of them in all once it is expanded. -/
def validGroups (groups : List (List Char)) : Bool :=
  let inner := groups.tail.dropLast
  let gaps := inner.countP List.isEmpty
  if groups.length > 9 || gaps > 1 then false
  else if gaps = 1 then
    let high := inner.takeWhile (fun group => !group.isEmpty)
    let low := (inner.dropWhile (fun group => !group.isEmpty)).tail
    let first := groups.headD []
    let last := groups.getLastD []
    let high := if first.isEmpty then high else first :: high
    let low := if last.isEmpty then low else low ++ [last]
    (!first.isEmpty || high.isEmpty) && (!last.isEmpty || low.isEmpty) &&
      high.length + low.length ≤ 7 && high.all isHextet && low.all isHextet
  else groups.length = 8 && groups.all isHextet

def isIPv6 (text : List Char) : Bool :=
  let (address, hasZone, zone) := partition '%' text
  !(hasZone && (zone.isEmpty || zone.contains '%')) &&
    !address.contains '/' && address.length ≤ 45 &&
      (ipv6Groups address).any validGroups

/-- What may stand between brackets: a future address or an IPv6 one. -/
def validBracketedHost (host : List Char) : Bool :=
  match host with
  | 'v' :: rest =>
      let (version, dotted, address) := partition '.' rest
      dotted && !version.isEmpty && version.all isHexDigit && !address.isEmpty
  | _ => isIPv6 host

/-! ## The network location -/

/-- The parts `hostname` is read from: before the bracket, whether there is one,
the host, and what follows it. -/
structure HostInfo where
  beforeBracket : List Char
  bracketed : Bool
  host : List Char
  port : List Char

def hostInfo (netloc : List Char) : HostInfo :=
  let info := afterLast '@' netloc
  let (before, opened, bracketed) := partition '[' info
  if opened then
    let (host, _, port) := partition ']' bracketed
    { beforeBracket := before, bracketed := true, host, port }
  else
    let (host, _, port) := partition ':' info
    { beforeBracket := [], bracketed := false, host, port }

/-- A network location with balanced and well placed brackets. -/
def validBrackets (netloc : List Char) : Bool :=
  if netloc.contains '[' && netloc.contains ']' then
    let info := hostInfo netloc
    if info.bracketed then
      info.beforeBracket.isEmpty && (info.port.isEmpty || info.port.head? = some ':') &&
        validBracketedHost info.host
    else validBracketedHost info.host
  else !(netloc.contains '[' || netloc.contains ']')

/-- A network location whose normal form introduces no delimiter. -/
def validNormalForm (unicode : Unicode) (netloc : List Char) : Bool :=
  if netloc.all (fun symbol => symbol.toNat < 128) then true
  else
    let bare := netloc.filter fun symbol => !(['@', ':', '#', '?'].contains symbol)
    let normal := (unicode.nfkc (String.ofList bare)).toList
    normal = bare || !normal.any fun symbol => ['/', '?', '#', '@', ':'].contains symbol

/-- The text after the scheme, when the URL has one. -/
def afterScheme (url : List Char) : List Char :=
  let (scheme, found, rest) := partition ':' url
  match scheme with
  | first :: _ => if found && first.isAlpha && scheme.all isSchemeChar then rest else url
  | [] => url

/-- The lower-cased scheme; a URL without one has the empty scheme. -/
def scheme (url : String) : String :=
  let cleaned := (lstripChars isControlOrSpace url.toList).filter fun symbol =>
    !(['\t', '\r', '\n'].contains symbol)
  match partition ':' cleaned with
  | (first :: rest, true, _) =>
      if first.isAlpha && rest.all isSchemeChar then
        String.ofList ((first :: rest).map Char.toLower)
      else ""
  | _ => ""

/-- The network location of a URL; `none` is the `ValueError` of a malformed one. -/
def netloc (unicode : Unicode) (url : String) : Option (List Char) :=
  let cleaned := (lstripChars isControlOrSpace url.toList).filter fun symbol =>
    !(['\t', '\r', '\n'].contains symbol)
  match afterScheme cleaned with
  | '/' :: '/' :: rest =>
      let location := rest.takeWhile fun symbol => !(['/', '?', '#'].contains symbol)
      if validBrackets location && validNormalForm unicode location then some location else none
  | _ => some []

/-- The lower-cased host; the zone of a scoped address keeps its case. -/
def hostname (unicode : Unicode) (url : String) : Option (Option String) :=
  (netloc unicode url).map fun location =>
    let host := (hostInfo location).host
    if host.isEmpty then none
    else
      let (address, hasZone, zone) := partition '%' host
      some (unicode.lower (String.ofList address) ++ (if hasZone then "%" else "") ++
        String.ofList zone)

end RssiService.Python.Url
