import SozuGateway.Builder.Collisions
import SozuGateway.Builder.Config
import SozuGateway.Builder.Objects

/-!
# Paths, hostnames and addresses

What a text of an object has to look like before it enters the IR, from
`crates/builder/src/lib.rs` and `gateway.rs`.

* `admitPath`, `ingressPathMatch`, `httpPathMatch` — a path match Sōzu can load.
* `admitHostname` — a hostname Sōzu's router can parse.
* `wildcardCovers`, `tlsCovers` — a wildcard covers one more label.
* `effectiveHostnames` — the hostnames a route serves on a listener.
* `parseIpAddr` — the address of an endpoint.
-/

set_option autoImplicit false

namespace SozuGateway

namespace Builder

open Lib

/-! ## Paths -/

/-- A path as it may appear in a message: its head, and how long it really was. -/
def displayPath (path : String) : String :=
  if path.length ≤ 64 then path
  else String.ofList (path.toList.take 64) ++ "… (" ++ natText path.utf8ByteSize ++ " bytes)"

/-- Drop a prefix path's insignificant trailing slash, keeping the root. -/
def canonicalPrefix (value : String) : String :=
  let trimmed := trimEndSlashes value.toList
  if trimmed = [] then "/" else String.ofList trimmed

section Admission

variable [External]

/-- Why Sōzu would refuse to compile `pattern`: as written, then anchored. -/
def sozuRegexRefusal (pattern : String) : Option String :=
  match External.regexError pattern with
  | some error => some (joinWords error)
  | none => (External.regexError ("\\A(?:" ++ pattern ++ ")\\z")).map joinWords

/-- Admit a path match only if Sōzu can load the rule it compiles to. -/
def admitPath (path : PathMatch) : Except Problem PathMatch :=
  match path.sozuRule with
  | .plainPrefix _ => .ok path
  | .regex pattern =>
      match sozuRegexRefusal pattern with
      | none => .ok path
      | some reason => .error (.invalidPathRegex (displayPath (pathValue path)) reason)

/-- A path given, or the root. -/
def pathOrRoot (path : Option String) : String :=
  match path with
  | some p => if p = "" then "/" else p
  | none => "/"

/-- `path_match` of the Ingress API: `pathType` and `path`. -/
def ingressPathMatch (pathType : String) (path : Option String) : Except Problem PathMatch :=
  let value := pathOrRoot path
  admitPath
    (if pathType = "Exact" then .exact value
    else if pathType = "ImplementationSpecific" then .regex value
    else .pathPrefix (canonicalPrefix value))

/-- `path_match` of the Gateway API. -/
def httpPathMatch (path : Option HttpRouteRulesMatchesPath) : Except Problem PathMatch :=
  match path with
  | none => .ok (.pathPrefix "/")
  | some path =>
      let value := pathOrRoot path.value
      admitPath
        (match path.type with
        | some .exact => .exact value
        | some .regularExpression => .regex value
        | _ => .pathPrefix (canonicalPrefix value))

/-! ## Hostnames -/

/-- Sōzu's bound on a frontend hostname, in bytes. -/
def maxHostnameLength : ℕ := 4096

/-- Why Sōzu's router would refuse `hostname`, if it would. -/
def hostnameRefusal (hostname : String) : Option String :=
  if maxHostnameLength < hostname.utf8ByteSize then
    some "longer than the 4096 bytes Sōzu accepts"
  else if hostname = "*" then none
  else if '/' ∈ hostname.toList then
    some "a '/' makes Sōzu read it as a regular-expression domain"
  else if '*' ∈ hostname.toList ∧ !startsWithText hostname "*" then
    some "a '*' is only accepted as the leading label"
  else
    match External.domainToAscii hostname with
    | none => some "not a valid internationalized domain name under IDNA (UTS #46)"
    | some ascii =>
        if ascii = "" ∨ startsWithText ascii "." then some "empty leading label" else none

/-- Admit a frontend hostname only if Sōzu's router can parse it. -/
def admitHostname (hostname : String) : Except Problem Unit :=
  match hostnameRefusal hostname with
  | none => .ok ()
  | some reason => .error (.invalidHostname (displayPath hostname) reason none)

end Admission

/-- A `*.example.com` wildcard covers exactly one extra label. -/
def wildcardCovers (wildcard host : String) : Bool :=
  match stripStart wildcard "*." with
  | none => false
  | some suffix =>
      match (stripEnd host suffix).bind fun start => stripEnd start "." with
      | none => false
      | some label => label ≠ "" && !label.toList.contains '.'

/-- A set of TLS hosts, possibly wildcards, covers `host`. -/
def tlsCovers (tlsHosts : List String) (host : String) : Bool :=
  tlsHosts.contains host || tlsHosts.any fun pattern => wildcardCovers pattern host

/-- The more specific of a route hostname and a listener hostname, when they are
compatible. -/
def hostIntersection (route listener : String) : Option String :=
  if route = listener ∨ wildcardCovers listener route then some route
  else if wildcardCovers route listener then some listener
  else none

/-- The hostnames a route serves on a listener. -/
def effectiveHostnames (route : Option (List String)) (listener : Option String) : List String :=
  match route, listener with
  | some routes, some l => routes.filterMap fun h => hostIntersection h l
  | some routes, none => routes
  | none, some l => [l]
  | none, none => ["*"]

/-! ## Addresses -/

/-- `std::net::IpAddr`. -/
inductive IpAddr where
  | v4 (ip : Ipv4Addr)
  | v6 (ip : Ipv6Addr)
  deriving DecidableEq, Repr

/-- `SocketAddr::new`. -/
def IpAddr.socket (ip : IpAddr) (port : UInt16) : SocketAddr :=
  match ip with
  | .v4 ip => .v4 ip port
  | .v6 ip => .v6 ip port 0 0

/-- The value of a digit. -/
def digitValue (radix : ℕ) (c : Char) : Option ℕ :=
  let value :=
    if c.isDigit then some (c.toNat - '0'.toNat)
    else if 'a' ≤ c ∧ c ≤ 'f' then some (c.toNat - 'a'.toNat + 10)
    else if 'A' ≤ c ∧ c ≤ 'F' then some (c.toNat - 'A'.toNat + 10)
    else none
  value.filter (· < radix)

/-- A number of at most `maxDigits` digits below `bound`, and what follows it. -/
def readNumber (radix maxDigits bound : ℕ) (allowZeroPrefix : Bool) (text : List Char) :
    Option (ℕ × List Char) :=
  let digits := text.takeWhile fun c => (digitValue radix c).isSome
  let n := digits.foldl (fun n c => radix * n + (digitValue radix c).getD 0) 0
  if digits = [] ∨ maxDigits < digits.length ∨ bound ≤ n ∨
      (!allowZeroPrefix ∧ digits.head? = some '0' ∧ 1 < digits.length) then none
  else some (n, text.drop digits.length)

/-- The separator before every group but the first. -/
def readSeparator (separator : Char) (index : ℕ) (text : List Char) : Option (List Char) :=
  if index = 0 then some text
  else match text with
    | c :: rest => if c = separator then some rest else none
    | [] => none

/-- Four decimal octets. -/
def readIpv4 (text : List Char) : Option (List ℕ × List Char) :=
  (List.range 4).foldlM (fun (read : List ℕ × List Char) index => do
    let rest ← readSeparator '.' index read.2
    let (octet, rest) ← readNumber 10 3 256 false rest
    pure (read.1 ++ [octet], rest)) ([], text)

/-- The groups read so far, whether they end in a dotted tail, and what follows. -/
structure Groups where
  groups : List ℕ
  ipv4 : Bool
  rest : List Char

/-- At most `fuel` more groups of `limit`, starting with group `index`. -/
def readGroups (limit : ℕ) : ℕ → ℕ → List ℕ → List Char → Groups
  | 0, _, groups, text => ⟨groups, false, text⟩
  | fuel + 1, index, groups, text =>
      let tail := if index < limit - 1 then (readSeparator ':' index text).bind readIpv4 else none
      match tail with
      | some ([a, b, c, d], rest) => ⟨groups ++ [256 * a + b, 256 * c + d], true, rest⟩
      | _ =>
          match (readSeparator ':' index text).bind (readNumber 16 4 65536 true) with
          | some (group, rest) => readGroups limit fuel (index + 1) (groups ++ [group]) rest
          | none => ⟨groups, false, text⟩

/-- Eight groups, or fewer around `::`. -/
def readIpv6 (text : List Char) : Option (List ℕ × List Char) :=
  let head := readGroups 8 8 0 [] text
  if head.groups.length = 8 then some (head.groups, head.rest)
  else if head.ipv4 then none
  else match head.rest with
    | ':' :: ':' :: rest =>
        let limit := 8 - (head.groups.length + 1)
        let tail := readGroups limit limit 0 [] rest
        some (head.groups ++
          List.replicate (8 - head.groups.length - tail.groups.length) 0 ++ tail.groups, tail.rest)
    | _ => none

/-- `str::parse::<IpAddr>`. -/
def parseIpAddr (text : String) : Option IpAddr :=
  match readIpv4 text.toList with
  | some ([a, b, c, d], []) => some (.v4 ⟨.ofNat a, .ofNat b, .ofNat c, .ofNat d⟩)
  | _ =>
      match readIpv6 text.toList with
      | some ([a, b, c, d, e, f, g, h], []) =>
          some (.v6
            ⟨.ofNat a, .ofNat b, .ofNat c, .ofNat d, .ofNat e, .ofNat f, .ofNat g, .ofNat h⟩)
      | _ => none

example : parseIpAddr "10.0.0.1" = some (.v4 ⟨10, 0, 0, 1⟩) := by decide
example : parseIpAddr "10.0.0.01" = none := by decide
example : parseIpAddr "fd00::1" = some (.v6 ⟨0xfd00, 0, 0, 0, 0, 0, 0, 1⟩) := by decide +kernel

end Builder

end SozuGateway
