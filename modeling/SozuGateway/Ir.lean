import Mathlib

/-!
# The intermediate representation

The data model of `crates/ir/src/lib.rs`: what the builder compiles the
Kubernetes objects into, and what the translator turns into Sōzu requests.

* `SocketAddr` — a socket address with the two IPv6 fields (flow label and
  scope) that Sōzu's wire address does not carry; `plain` forgets them.
* `PathMatch.sozuRule` — the path rule one path match compiles to, with the
  escaping of `regexEscape`.
* `HeaderMatch.canonical` — a conjunction of header matches in the order Sōzu
  files it under; it depends on the list only up to a permutation
  (`HeaderMatch.canonical_perm`).
* `Frontend.sozuRouteKey` — the key Sōzu stores a route under, spelled as Sōzu
  spells it.
-/

namespace SozuGateway

/-! ## Socket addresses -/

/-- An IPv4 address, as its four octets. -/
structure Ipv4Addr where
  a : UInt8
  b : UInt8
  c : UInt8
  d : UInt8
  deriving DecidableEq, Repr

/-- An IPv6 address, as its eight segments. -/
structure Ipv6Addr where
  a : UInt16
  b : UInt16
  c : UInt16
  d : UInt16
  e : UInt16
  f : UInt16
  g : UInt16
  h : UInt16
  deriving DecidableEq, Repr

/-- The octets of an IPv4 address, first to last. -/
def Ipv4Addr.octets (ip : Ipv4Addr) : List ℕ :=
  [ip.a.toNat, ip.b.toNat, ip.c.toNat, ip.d.toNat]

/-- The segments of an IPv6 address, first to last. -/
def Ipv6Addr.segments (ip : Ipv6Addr) : List ℕ :=
  [ip.a.toNat, ip.b.toNat, ip.c.toNat, ip.d.toNat, ip.e.toNat, ip.f.toNat, ip.g.toNat, ip.h.toNat]

/-- `std::net::SocketAddr`: an IPv6 socket address also carries a flow label and
a scope id. -/
inductive SocketAddr where
  | v4 (ip : Ipv4Addr) (port : UInt16)
  | v6 (ip : Ipv6Addr) (port : UInt16) (flowinfo scopeId : UInt32)
  deriving DecidableEq, Repr

namespace SocketAddr

/-- An address as Sōzu's wire type carries it: IP and port, without an IPv6 flow
label or scope id. -/
def plain : SocketAddr → SocketAddr
  | v4 ip port => v4 ip port
  | v6 ip port _ _ => v6 ip port 0 0

/-- The address carries nothing Sōzu's wire type would drop. -/
def IsPlain (x : SocketAddr) : Prop := x.plain = x

instance (x : SocketAddr) : Decidable x.IsPlain := inferInstanceAs (Decidable (x.plain = x))

@[simp] theorem plain_plain (x : SocketAddr) : x.plain.plain = x.plain := by
  cases x <;> rfl

theorem isPlain_plain (x : SocketAddr) : x.plain.IsPlain := plain_plain x

/-- The fields of an address, in the order the derived comparison reads them. -/
def orderKey : SocketAddr → List ℕ
  | v4 ip port => 0 :: (ip.octets ++ [port.toNat])
  | v6 ip port flowinfo scopeId =>
      1 :: (ip.segments ++ [port.toNat, flowinfo.toNat, scopeId.toNat])

theorem orderKey_injective : Function.Injective orderKey := by
  rintro (⟨⟨a, b, c, d⟩, p⟩ | ⟨⟨a, b, c, d, e, f, g, h⟩, p, fl, sc⟩)
    (⟨⟨a', b', c', d'⟩, p'⟩ | ⟨⟨a', b', c', d', e', f', g', h'⟩, p', fl', sc'⟩) heq
  all_goals simp_all [orderKey, Ipv4Addr.octets, Ipv6Addr.segments, UInt8.toNat_inj,
    UInt16.toNat_inj, UInt32.toNat_inj]

instance : LinearOrder SocketAddr := LinearOrder.lift' orderKey orderKey_injective

/-! ### How an address is printed -/

/-- A run of zero segments: where it starts and how long it is. -/
structure Span where
  start : ℕ
  len : ℕ
  deriving DecidableEq, Repr

/-- The first longest run of zeroes, from the segments left to read, the run
being read and the longest one so far. -/
def longestZeroes : List ℕ → ℕ → Span → Span → Span
  | [], _, _, longest => longest
  | s :: rest, i, current, longest =>
      if s = 0 then
        let current : Span :=
          if current.len = 0 then ⟨i, 1⟩ else ⟨current.start, current.len + 1⟩
        longestZeroes rest (i + 1) current (if longest.len < current.len then current else longest)
      else longestZeroes rest (i + 1) ⟨0, 0⟩ longest

/-- Segments in lower-case hexadecimal, joined by colons. -/
def fmtSubslice (segments : List ℕ) : List Char :=
  [':'].intercalate (segments.map (Nat.toDigits 16))

/-- Octets in decimal, joined by dots. -/
def fmtOctets (octets : List ℕ) : List Char :=
  ['.'].intercalate (octets.map (Nat.toDigits 10))

/-- An IPv6 address as the standard library prints it: an IPv4-mapped address
keeps its dotted tail, and the first longest run of at least two zero segments
is spelled `::`. -/
def fmtIpv6 (ip : Ipv6Addr) : List Char :=
  if ip.segments.take 6 = [0, 0, 0, 0, 0, 0xffff] then
    "::ffff:".toList ++
      fmtOctets [ip.g.toNat / 256, ip.g.toNat % 256, ip.h.toNat / 256, ip.h.toNat % 256]
  else
    let zeroes := longestZeroes ip.segments 0 ⟨0, 0⟩ ⟨0, 0⟩
    if 1 < zeroes.len then
      fmtSubslice (ip.segments.take zeroes.start) ++ "::".toList ++
        fmtSubslice (ip.segments.drop (zeroes.start + zeroes.len))
    else fmtSubslice ip.segments

/-- `Display` of a socket address. -/
def display : SocketAddr → List Char
  | v4 ip port => fmtOctets ip.octets ++ ':' :: Nat.toDigits 10 port.toNat
  | v6 ip port _ scopeId =>
      '[' :: fmtIpv6 ip ++ (if scopeId = 0 then [] else '%' :: Nat.toDigits 10 scopeId.toNat) ++
        "]:".toList ++ Nat.toDigits 10 port.toNat

example : String.ofList (display (.v4 ⟨0, 0, 0, 0⟩ 443)) = "0.0.0.0:443" := by decide

end SocketAddr

/-! ## Text -/

/-- `str::to_ascii_lowercase`. -/
def toAsciiLowercase (s : String) : String := String.ofList (s.toList.map Char.toLower)

/-- The standard library's table of the characters `Debug` prints as they are.
Nothing below depends on what it holds. -/
class CharTable where
  /-- Printed as it is, when no escape of its own applies. -/
  printable : Char → Bool

/-- How `Debug` prints one character of a string. -/
def escapeDebug [CharTable] (c : Char) : List Char :=
  if c = '\x00' then ['\\', '0']
  else if c = '\t' then ['\\', 't']
  else if c = '\r' then ['\\', 'r']
  else if c = '\n' then ['\\', 'n']
  else if c = '"' then ['\\', '"']
  else if c = '\\' then ['\\', '\\']
  else if CharTable.printable c then [c]
  else ['\\', 'u', '\x7b'] ++ Nat.toDigits 16 c.toNat ++ ['\x7d']

/-- `Debug` of a string: quoted, each character escaped. -/
def debugStr [CharTable] (s : String) : List Char :=
  '"' :: s.toList.flatMap escapeDebug ++ ['"']

/-! ## Paths -/

/-- How a path is matched. -/
inductive PathMatch where
  /-- An element-boundary prefix: `/foo` covers `/foo`, `/foo?q` and `/foo/bar`. -/
  | pathPrefix (path : String)
  /-- The whole path, with or without a query string. -/
  | exact (path : String)
  /-- The user's own pattern. -/
  | regex (pattern : String)
  deriving DecidableEq, Repr

/-- The Sōzu path rule a `PathMatch` compiles to. -/
inductive SozuPathRule where
  /-- A plain string prefix: only ever the root `/`. -/
  | plainPrefix (value : String)
  /-- An anchored regex. -/
  | regex (value : String)
  deriving DecidableEq, Repr

/-- The rest of a request target after a matched boundary. -/
def remainder : List Char := "(?-u:.*)".toList

/-- The characters `regexEscape` puts a backslash before. -/
def metacharacters : List Char := "\\.+*?()|[]\x7b\x7d^$".toList

/-- Escape every regex metacharacter so a literal path is matched literally. -/
def regexEscape (literal : List Char) : List Char :=
  literal.flatMap fun c => if c ∈ metacharacters then ['\\', c] else [c]

/-- `str::trim_end_matches('/')`. -/
def trimEndSlashes (s : List Char) : List Char := s.rdropWhile (· = '/')

/-- Compile to the Sōzu rule with Kubernetes semantics. -/
def PathMatch.sozuRule : PathMatch → SozuPathRule
  | .regex v => .regex v
  | .exact v =>
      .regex (String.ofList
        ('^' :: regexEscape v.toList ++ "(?:\\?".toList ++ remainder ++ ")?$".toList))
  | .pathPrefix v =>
      let trimmed := trimEndSlashes v.toList
      if trimmed = [] then .plainPrefix "/"
      else
        .regex (String.ofList
          ('^' :: regexEscape trimmed ++ "(?:[/?]".toList ++ remainder ++ ")?$".toList))

example : (PathMatch.exact "/a.b").sozuRule = .regex "^/a\\.b(?:\\?(?-u:.*))?$" := by decide
example : (PathMatch.pathPrefix "/foo/").sozuRule = .regex "^/foo(?:[/?](?-u:.*))?$" := by decide

/-! ## Clusters and backends -/

/-- Load-balancing algorithm for a cluster. -/
inductive LbAlgorithm where
  | roundRobin
  | random
  | leastLoaded
  | powerOfTwo
  deriving DecidableEq, Repr

/-- A TCP-connect health check. -/
structure HealthCheck where
  intervalSecs : UInt32
  timeoutSecs : UInt32
  healthyThreshold : UInt32
  unhealthyThreshold : UInt32
  /-- Port the probe dials on the backend's IP instead of its data port. -/
  port : Option UInt16
  deriving DecidableEq, Repr

/-- A routing target: one Sōzu cluster. -/
structure Cluster where
  id : String
  loadBalancing : LbAlgorithm
  stickySession : Bool
  httpsRedirect : Bool
  maxConnectionsPerIp : Option UInt64
  retryAfter : Option UInt32
  http2 : Bool
  healthCheck : Option HealthCheck
  deriving DecidableEq, Repr

/-- One backend endpoint of a cluster. -/
structure Backend where
  clusterId : String
  backendId : String
  address : SocketAddr
  weight : Option Int32
  stickyId : Option String
  deriving DecidableEq, Repr

/-! ## Header matches -/

/-- How a header match tests the header's value.  The constructor order is
Sōzu's numbering, which the derived order relies on. -/
inductive HeaderMatchKind where
  | exact (value : String)
  | regex (value : String)
  deriving DecidableEq, Repr

/-- Sōzu's `HeaderMatchKind` number and the value it carries. -/
def HeaderMatchKind.sozuKindAndValue : HeaderMatchKind → ℕ × String
  | .exact value => (0, value)
  | .regex value => (1, value)

/-- One request-header condition of a frontend. -/
structure HeaderMatch where
  name : String
  kind : HeaderMatchKind
  deriving DecidableEq, Repr

namespace HeaderMatch

/-- The fields of a header match, in the order the derived comparison reads them. -/
def orderKey (m : HeaderMatch) : String ×ₗ (ℕ ×ₗ String) :=
  toLex (m.name, toLex m.kind.sozuKindAndValue)

theorem orderKey_injective : Function.Injective orderKey := by
  rintro ⟨n, k⟩ ⟨n', k'⟩ heq
  simp only [orderKey, EmbeddingLike.apply_eq_iff_eq, Prod.mk.injEq] at heq
  obtain ⟨rfl, hk⟩ := heq
  cases k <;> cases k' <;> simp_all [HeaderMatchKind.sozuKindAndValue]

instance : LinearOrder HeaderMatch := LinearOrder.lift' orderKey orderKey_injective

/-- A conjunction in the form Sōzu files it under: names lowercased, sorted by
name, kind and value, duplicates dropped. -/
def canonical (ms : List HeaderMatch) : List HeaderMatch :=
  ((ms.map fun m => { m with name := toAsciiLowercase m.name }).insertionSort (· ≤ ·)).destutter
    (· ≠ ·)

/-- The canonical form follows the conditions, not the order they are listed in. -/
theorem canonical_perm {ms ms' : List HeaderMatch} (h : ms.Perm ms') :
    canonical ms = canonical ms' := by
  have hsorted : (ms.map fun m => { m with name := toAsciiLowercase m.name }).insertionSort (· ≤ ·)
      = (ms'.map fun m => { m with name := toAsciiLowercase m.name }).insertionSort (· ≤ ·) := by
    refine List.Perm.eq_of_pairwise (fun _ _ _ _ => le_antisymm)
      (List.pairwise_insertionSort (· ≤ ·) _) (List.pairwise_insertionSort _ _) ?_
    exact ((List.perm_insertionSort _ _).trans (h.map _)).trans (List.perm_insertionSort _ _).symm
  rw [canonical, canonical, hsorted]

end HeaderMatch

/-! ## Frontends -/

/-- Which side a header edit applies to. -/
inductive HeaderTarget where
  | request
  | response
  deriving DecidableEq, Repr

/-- Append (`some`) or delete (`none`) a header. -/
structure HeaderMod where
  on : HeaderTarget
  key : String
  value : Option String
  deriving DecidableEq, Repr

/-- The scheme of a redirect target. -/
inductive Scheme where
  | http
  | https
  deriving DecidableEq, Repr

/-- The status a redirect answers with: 301, 302 or 308. -/
inductive RedirectStatus where
  | movedPermanently
  | found
  | permanentRedirect
  deriving DecidableEq, Repr

/-- A redirect; an absent field keeps the request's value. -/
structure Redirect where
  scheme : Option Scheme
  status : RedirectStatus
  hostname : Option String
  path : Option String
  port : Option UInt16
  deriving DecidableEq, Repr

/-- Rewrite the request's host or full path before proxying. -/
structure Rewrite where
  hostname : Option String
  path : Option String
  deriving DecidableEq, Repr

/-- Request and response transformations applied to a frontend. -/
structure FrontendFilters where
  headerMods : List HeaderMod := []
  redirect : Option Redirect := none
  rewrite : Option Rewrite := none
  deriving DecidableEq, Repr

/-- A route: hostname, path, method and header matches to a cluster, on the
HTTP or the HTTPS listener. -/
structure Frontend where
  hostname : String
  path : PathMatch
  method : Option String
  /-- Absent for a redirect-only frontend. -/
  clusterId : Option String
  tls : Bool
  listener : SocketAddr
  filters : FrontendFilters
  headerMatches : List HeaderMatch
  deriving DecidableEq, Repr

/-- The identity Sōzu stores an HTTP(S) frontend under: which frontend map it
lands in, and the key itself. -/
structure SozuRouteKey where
  https : Bool
  key : String
  deriving DecidableEq, Repr

namespace SozuRouteKey

/-- The fields of a route key, in the order the derived comparison reads them. -/
def orderKey (k : SozuRouteKey) : Bool ×ₗ String := toLex (k.https, k.key)

theorem orderKey_injective : Function.Injective orderKey := by
  rintro ⟨b, k⟩ ⟨b', k'⟩ heq
  simp only [orderKey, EmbeddingLike.apply_eq_iff_eq, Prod.mk.injEq] at heq
  obtain ⟨rfl, rfl⟩ := heq
  rfl

instance : LinearOrder SozuRouteKey := LinearOrder.lift' orderKey orderKey_injective

end SozuRouteKey

/-- The suffix one header predicate adds to a route key. -/
def predicateSuffix [CharTable] (m : HeaderMatch) : List Char :=
  let (kind, value) := m.kind.sozuKindAndValue
  ";H".toList ++ Nat.toDigits 10 kind ++ ':' :: debugStr m.name ++ '=' :: debugStr value

/-- A path rule as a route key spells it. -/
def SozuPathRule.spelled : SozuPathRule → List Char
  | .plainPrefix v => 'P' :: v.toList
  | .regex v => 'R' :: v.toList

/-- The part of a route key that follows the listener and the hostname. -/
def Frontend.matchSuffix [CharTable] (f : Frontend) : List Char :=
  f.path.sozuRule.spelled ++
    (match f.method with
      | none => []
      | some method => ';' :: method.toList) ++
    (HeaderMatch.canonical f.headerMatches).flatMap predicateSuffix

/-- The key Sōzu stores this frontend under. -/
def Frontend.sozuRouteKey [CharTable] (f : Frontend) : SozuRouteKey where
  https := f.tls
  key := String.ofList
    (f.listener.plain.display ++ ';' :: f.hostname.toList ++ ';' :: f.matchSuffix)

/-! ## Certificates, layer 4 and the whole IR -/

/-- A TLS certificate loaded onto an HTTPS listener. -/
structure Certificate where
  listener : SocketAddr
  /-- Leaf certificate, PEM. -/
  certificate : String
  /-- Intermediate chain, PEM. -/
  chain : List String
  /-- Private key, PEM. -/
  key : String
  /-- SNI names to serve this certificate for. -/
  names : List String
  deriving DecidableEq, Repr

/-- Layer-4 protocol of a raw passthrough route. -/
inductive L4Protocol where
  | tcp
  | udp
  deriving DecidableEq, Repr

/-- The protocols, in the order of the source. -/
def L4Protocol.toNat : L4Protocol → ℕ
  | .tcp => 0
  | .udp => 1

theorem L4Protocol.toNat_injective : Function.Injective L4Protocol.toNat := by
  intro p p' h
  cases p <;> cases p' <;> simp_all [L4Protocol.toNat]

instance : LinearOrder L4Protocol := LinearOrder.lift' L4Protocol.toNat L4Protocol.toNat_injective

instance (priority := 1100) transCmp_l4Socket :
    Std.TransCmp (compare : L4Protocol ×ₗ SocketAddr → L4Protocol ×ₗ SocketAddr → Ordering) :=
  inferInstance

/-- There are bytes. -/
instance (priority := 1100) neZero_byte : NeZero 256 := ⟨by decide⟩

/-- A raw layer-4 route: a listen address forwarded to a cluster. -/
structure L4Frontend where
  protocol : L4Protocol
  listener : SocketAddr
  clusterId : String
  deriving DecidableEq, Repr

/-- The complete desired routing state. -/
structure Ir where
  clusters : List Cluster := []
  frontends : List Frontend := []
  backends : List Backend := []
  certificates : List Certificate := []
  l4Frontends : List L4Frontend := []
  deriving DecidableEq, Repr

end SozuGateway
