import SozuGateway.Builder.Services

/-!
# Gateway API precedence for header matches

`lift_header_matches` of `crates/builder/src/lib.rs`: Sōzu ranks a frontend whose header
predicates hold above every frontend without any, so the plain routes that outrank a
header match are copied above it, and the header matches Sōzu cannot order are skipped.

* `gwPrecedence`, `outranks`, `pathsMeet`, `canMeet` — the Gateway API's precedence, and
  whether two frontends meet.
* `TreeOffer`, `unsettled` — how Sōzu offers a rule, and why it would not settle a pair.
* `Admission.firstUnsettled` — the first pair of a tier that is not settled, checking
  only what the last skip changed.
* `GroupPlan.round`, `planGroup` — one round of planning, and the rounds of one hostname.
* `liftHeaderMatches` — the frontends kept, the copies added, and the skips reported.
-/

set_option autoImplicit false

namespace SozuGateway

namespace Builder

open Lib

/-! ## Precedence -/

/-- A prefix without its insignificant trailing slash; the root is empty. -/
def prefixBody (path : String) : String := String.ofList (trimEndSlashes path.toList)

/-- Whether an element-boundary prefix matches a request target. -/
def prefixCovers (path target : String) : Bool :=
  prefixBody path = "" ||
    (stripStart target (prefixBody path)).any fun rest =>
      rest = "" || startsWithText rest "/" || startsWithText rest "?"

def methodsMeet (a b : Frontend) : Bool :=
  match a.method, b.method with
  | some x, some y => x = y
  | _, _ => true

/-- The target is the exact path with a query string. -/
def queried (target exact : String) : Bool :=
  (stripStart target exact).any fun rest => startsWithText rest "?"

/-- Whether some request target matches both paths' rules. -/
def pathsMeet : PathMatch → PathMatch → Bool
  | .regex _, _ | _, .regex _ => true
  | .pathPrefix x, .pathPrefix y => prefixCovers x (prefixBody y) || prefixCovers y (prefixBody x)
  | .exact exact, .pathPrefix path | .pathPrefix path, .exact exact =>
      prefixCovers path exact || queried (prefixBody path) exact
  | .exact x, .exact y => x = y || queried x y || queried y x

/-- The precedence of the paths of two frontends. -/
def pathPrecedence (a b : Frontend) : Ordering :=
  match a.path, b.path with
  | .regex _, _ | _, .regex _ => compare b.headerMatches.isEmpty a.headerMatches.isEmpty
  | .exact _, .pathPrefix _ => .gt
  | .pathPrefix _, .exact _ => .lt
  | .pathPrefix x, .pathPrefix y =>
      compare (prefixBody x).utf8ByteSize (prefixBody y).utf8ByteSize
  | .exact _, .exact _ => .eq

/-- Gateway API precedence between two frontends one request can match. -/
def gwPrecedence (a b : Frontend) : Ordering :=
  ((pathPrecedence a b).then (compare a.method.isSome b.method.isSome)).then
    (compare a.headerMatches.length b.headerMatches.length)

/-- Whether plain frontend `u` wins over header-matched frontend `p`. -/
def outranks (u p : Frontend) : Bool :=
  methodsMeet u p && pathsMeet u.path p.path && gwPrecedence u p = .gt

/-- The copy of plain route `u` lifted above header match `p`. -/
def liftedCopy (u p : Frontend) : Frontend :=
  { u with headerMatches := p.headerMatches, method := u.method.or p.method }

/-! ## What Sōzu settles -/

/-- How Sōzu weighs one of the rules we emit. -/
inductive TreeOffer where
  | rootPrefix
  | regexWithMethod
  /-- `shortest` is the length of the shortest target it matches. -/
  | regex (shortest : ℕ)
  deriving DecidableEq, Repr

def treeOffer (f : Frontend) : TreeOffer :=
  match f.path.sozuRule, f.method with
  | .plainPrefix _, _ => .rootPrefix
  | .regex _, some _ => .regexWithMethod
  | .regex _, none =>
      .regex (match f.path with
        | .exact path => path.utf8ByteSize
        | .pathPrefix path => (prefixBody path).utf8ByteSize
        | .regex _ => 0)

/-- Why Sōzu would not serve `high` over `low` in every order it may hold them. -/
def unsettled (hostname : String) (high low : TreeOffer) : Option String :=
  if hostname = "*" then
    some ("on a route without hostnames Sōzu serves the first matching header-matched " ++
      "frontend it holds, in an order this controller does not set")
  else
    match high, low with
    | .regexWithMethod, .regexWithMethod =>
        some ("both name the method, and Sōzu serves the first matching path regex that " ++
          "names it, in the order it holds them")
    | .regexWithMethod, _ => none
    | _, .regexWithMethod =>
        some ("Sōzu serves a matching path regex that names the method ahead of every one " ++
          "that does not, whatever their paths")
    | .regex shortest, .rootPrefix =>
        if 1 < shortest then none
        else some ("on the target `/` Sōzu serves whichever of a path regex and the root " ++
          "prefix it holds last")
    | .rootPrefix, .regex shortest =>
        if shortest ≤ 1 then
          some ("on the target `/` Sōzu serves whichever of a path regex and the root " ++
            "prefix it holds last")
        else
          some ("Sōzu serves a matching path regex longer than `/` ahead of the root prefix, " ++
            "whatever their header matches")
    | .rootPrefix, .rootPrefix =>
        some ("Sōzu ranks the root prefix by its length alone, ignoring the method, and " ++
          "serves whichever of two it holds last")
    | .regex _, .regex _ =>
        some "Sōzu serves whichever of two method-less path regexes it holds last"

section Meeting

variable [External]

/-- Whether a request value meets a header match's regex; one that does not compile
cannot rule a meeting out. -/
def regexAccepts (pattern value : String) : Bool :=
  let anchored := "\\A(?:" ++ pattern ++ ")\\z"
  (External.regexError anchored).isSome || External.regexIsMatch anchored value

/-- One value can meet both kinds. -/
def kindsMeet : HeaderMatchKind → HeaderMatchKind → Bool
  | .exact v, .exact w => v = w
  | .exact v, .regex r | .regex r, .exact v => regexAccepts r v
  | .regex _, .regex _ => true

/-- Whether one request can match both frontends. -/
def canMeet (a b : Frontend) : Bool :=
  methodsMeet a b && pathsMeet a.path b.path &&
    a.headerMatches.all fun x =>
      (b.headerMatches.filter fun y => y.name = x.name).all fun y => kindsMeet x.kind y.kind

end Meeting

/-! ## The predicated class -/

/-- A frontend with its place. -/
abbrev Member := ℕ × SourcedFrontend

/-- One frontend of Sōzu's predicated class. -/
structure Predicated where
  rule : Frontend
  offer : TreeOffer
  /-- The frontend whose precedence it carries. -/
  ranksAs : Member
  /-- The header match it stands or falls with. -/
  owner : Member
  copy : Bool

namespace Predicated

/-- Its identity across the rounds of one group. -/
def id (entry : Predicated) : ℕ ×ₗ ℕ := toLex (entry.ranksAs.1, entry.owner.1)

/-- A total order that follows `gwPrecedence`. -/
def precedenceKey (entry : Predicated) : ℕ ×ₗ (ℕ ×ₗ (Bool ×ₗ (ℕ ×ₗ (ℕ ×ₗ ℕ)ᵒᵈ))) :=
  let f := entry.ranksAs.2.frontend
  let place : ℕ × ℕ :=
    match f.path with
    | .exact path => (2, path.utf8ByteSize)
    | .pathPrefix path => (1, (prefixBody path).utf8ByteSize)
    | .regex _ => (0, 0)
  toLex (place.1, toLex (place.2, toLex (f.method.isSome, toLex (f.headerMatches.length,
    OrderDual.toDual entry.id))))

/-- Whether the Gateway API serves a request both match with `a` rather than `b`. -/
def servesFirst (a b : Predicated) : Bool :=
  ((gwPrecedence a.ranksAs.2.frontend b.ranksAs.2.frontend).then
    (compare b.ranksAs.1 a.ranksAs.1)).then (compare b.owner.1 a.owner.1) = .gt

/-- Why Sōzu would not serve every request both match with `high`. -/
def conflict [External] (high low : Predicated) : Option String :=
  if sameEffect high.rule low.rule then none
  else if !servesFirst high low then none
  else
    match unsettled high.rule.hostname high.offer low.offer with
    | none => none
    | some reason => if canMeet high.rule low.rule then some reason else none

end Predicated

/-- An entry of a tier with its place, and the round from which it has been there. -/
structure Placed where
  place : ℕ
  appeared : ℕ
  entry : Predicated

/-- A pair that is not settled, and why. -/
structure Conflict where
  high : Predicated
  low : Predicated
  reason : String

instance (priority := 1100) transCmp_entryId :
    Std.TransCmp (compare : ℕ ×ₗ ℕ → ℕ ×ₗ ℕ → Ordering) := Lib.transCmp

/-- What the admission of one group established in its earlier rounds. -/
structure Admission where
  round : ℕ := 0
  /-- Each entry of the last tier, with the round from which it has been in every one. -/
  present : BTreeMap (ℕ ×ₗ ℕ) ℕ := ∅
  /-- The last round in which each entry was found settled against its whole tier. -/
  settled : BTreeMap (ℕ ×ₗ ℕ) ℕ := ∅

namespace Admission

variable [External]

/-- The entries of a tier with their places and the rounds they appeared in. -/
def place (admission : Admission) (tier : List Predicated) : List Placed :=
  tier.zipIdx.map fun (entry, place) =>
    ⟨place, admission.present[entry.id]?.getD admission.round, entry⟩

/-- The first entry of a list that conflicts with `high`. -/
def firstConflict (high : Predicated) (lows : List Placed) : Option (ℕ × Conflict) :=
  lows.findSome? fun low =>
    (high.conflict low.entry).map fun reason => (low.place, ⟨high, low.entry, reason⟩)

/-- The entry with the least place among those that appeared since and conflict. -/
def leastConflict (high : Predicated) (since : ℕ) (newest : List Placed) : Option (ℕ × Conflict) :=
  ((newest.takeWhile fun low => since < low.appeared).filterMap fun low =>
    (high.conflict low.entry).map fun reason =>
      ((low.place, ⟨high, low.entry, reason⟩) : ℕ × Conflict)).foldl
    (fun least found =>
      match least with
      | none => some found
      | some l => if found.1 < l.1 then some found else some l) none

/-- The entries from the top, up to the first that is not settled. -/
def scan (tier newest : List Placed) : Admission → List Placed → Admission × Option Conflict
  | admission, [] => (admission, none)
  | admission, high :: rest =>
      let found :=
        match admission.settled[high.entry.id]? with
        -- only an entry that appeared since can be out of order with it
        | some since => leastConflict high.entry since newest
        | none => firstConflict high.entry tier
      match found with
      | some (_, conflict) => (admission, some conflict)
      | none =>
          scan tier newest
            { admission with settled := admission.settled.insert high.entry.id admission.round }
            rest

/-- The highest-precedence pair of a tier that Sōzu does not order the Gateway API's
way. -/
def firstUnsettled (admission : Admission) (tier : List Predicated) :
    Admission × Option Conflict :=
  let admission := { admission with round := admission.round + 1 }
  let placed := admission.place tier
  let newest := sortBy
    (fun low => (toLex (OrderDual.toDual low.appeared, low.place) : ℕᵒᵈ ×ₗ ℕ)) placed
  let order := sortBy (fun high => OrderDual.toDual high.entry.precedenceKey) placed
  scan placed newest
    { admission with
      present := placed.foldl (fun present e => present.insert e.entry.id e.appeared) ∅ } order

end Admission

/-! ## Words for a report -/

section Words

variable [CharTable]

/-- A plain route as a message names it. -/
def describeRoute (u : Frontend) : String :=
  let kind :=
    match u.path with
    | .exact _ => "exact"
    | .pathPrefix _ => "prefix"
    | .regex _ => "regex"
  (u.method.elim "" fun m => m ++ " ") ++ kind ++ " " ++ displayPath (pathValue u.path)

/-- A header match as a message names it. -/
def describeHeader (m : HeaderMatch) : String :=
  match m.kind with
  | .exact value => m.name ++ "=" ++ quoted value
  | .regex value => m.name ++ "=~" ++ quoted value

/-- A frontend's match as a message names it. -/
def describeMatch (f : Frontend) : String :=
  if f.headerMatches = [] then describeRoute f
  else describeRoute f ++ " with " ++ ", ".intercalate (f.headerMatches.map describeHeader)

/-- A frontend and the object it comes from. -/
def describeSource (sf : SourcedFrontend) : String :=
  (match sf.source with
    | .ingress namespace_ name => "Ingress " ++ slashed namespace_ name
    | .httpRoute namespace_ name _ _ _ _ => "HTTPRoute " ++ slashed namespace_ name) ++
    " (" ++ describeMatch sf.frontend ++ ")"

/-! ## One group -/

/-- The most frontends added on one listener and hostname. -/
def maxLiftedPerHostname : ℕ := 64

/-- The most header matches weighed on one listener and hostname. -/
def maxHeaderMatchesPerHostname : ℕ := 64

/-- A copy, with the place of the header match that brought it. -/
abbrev Brought := ℕ × Frontend

/-- A header match that is skipped, by its place, and why. -/
abbrev Skip := ℕ × Problem

/-- The header match to skip for an unsettled pair. -/
def overlapProblem (c : Conflict) : Skip :=
  let hostname := c.high.rule.hostname
  let headerMatch := describeMatch c.low.owner.2.frontend
  let copyOf := if c.low.copy then some (describeRoute c.low.ranksAs.2.frontend) else none
  (c.low.owner.1,
    if c.high.copy then
      .headerMatchOutranksRoute hostname headerMatch (describeRoute c.high.ranksAs.2.frontend)
        copyOf c.reason
    else
      .headerMatchOverlap hostname headerMatch (describeSource c.high.ranksAs.2) copyOf c.reason)

/-- A plain route that outranks one header match, with its copy above it. -/
structure Candidate where
  route : Member
  rule : Frontend
  key : SozuRouteKey
  /-- The frontend of the group already holding that key. -/
  holder : Option Member

/-- What is worked out once for a group. -/
structure GroupPlan where
  /-- The plain routes, regex paths aside, in frontend order. -/
  plain : List Member
  /-- The header matches within the cap, in frontend order. -/
  originals : List Member
  /-- Every route key of the group, to the frontend holding it. -/
  held : BTreeMap SozuRouteKey Member

/-- The path is a regex. -/
def isRegexPath : PathMatch → Bool
  | .regex _ => true
  | _ => false

namespace GroupPlan

def of (members originals : List Member) : GroupPlan where
  plain := members.filter fun m =>
    m.2.frontend.headerMatches.isEmpty && !isRegexPath m.2.frontend.path
  originals := originals
  held := members.foldl (fun held m => held.insert (routeKey m.2.frontend) m) ∅

/-- The plain routes that outrank a header match, each with its copy. -/
def candidates (plan : GroupPlan) (p : Member) : List Candidate :=
  if isRegexPath p.2.frontend.path then []
  else
    (plan.plain.filter fun u => outranks u.2.frontend p.2.frontend).map fun u =>
      let rule := liftedCopy u.2.frontend p.2.frontend
      { route := u, rule := rule, key := routeKey rule, holder := plan.held[routeKey rule]? }

/-- Weigh one candidate of a header match: the copies it adds so far, or why it is
skipped. -/
def choose (skipped : List ℕ) (brought : List SozuRouteKey) (p : Member)
    (fresh : List Candidate) (candidate : Candidate) : Except Skip (List Candidate) :=
  match candidate.holder.filter fun holder => holder.1 ∉ skipped with
  | some holder =>
      -- a header match with the copy's very match serves in its place
      if sameMatch holder.2.frontend candidate.rule then .ok fresh
      else
        .error (p.1, .headerMatchCopyKeyTaken p.2.frontend.hostname (describeMatch p.2.frontend)
          (describeRoute candidate.route.2.frontend) (describeSource holder.2))
  | none =>
      if candidate.key ∈ brought then .ok fresh
      else if fresh.any fun c => c.key = candidate.key then
        -- one Sōzu frontend: it serves the more specific of the two
        .ok (fresh.map fun c =>
          if c.key = candidate.key ∧
              gwPrecedence candidate.route.2.frontend c.route.2.frontend = .gt then candidate
          else c)
      else if maxLiftedPerHostname < brought.length + (fresh.length + 1) then
        .error (p.1, .headerMatchPrecedenceLimit p.2.frontend.hostname maxLiftedPerHostname)
      else .ok (fresh ++ [candidate])

/-- The copies of every header match that is not skipped. -/
def chooseAll (plan : GroupPlan) (skipped : List ℕ) :
    List SozuRouteKey → List Member → Except Skip (List (Member × List Candidate))
  | _, [] => .ok []
  | brought, p :: rest =>
      if p.1 ∈ skipped then chooseAll plan skipped brought rest
      else
        match (plan.candidates p).foldlM (choose skipped brought p) [] with
        | .error skip => .error skip
        | .ok fresh =>
            match chooseAll plan skipped (brought ++ fresh.map Candidate.key) rest with
            | .error skip => .error skip
            | .ok chosen => .ok ((p, fresh) :: chosen)

/-- A header match and the copies it brought, as Sōzu's predicated class holds them. -/
def predicated (chosen : Member × List Candidate) : List Predicated :=
  let p := chosen.1
  { rule := p.2.frontend, offer := treeOffer p.2.frontend, ranksAs := p, owner := p, copy := false }
    :: chosen.2.map fun c =>
      { rule := c.rule, offer := treeOffer c.rule, ranksAs := c.route, owner := p, copy := true }

variable [External]

/-- The copies that keep precedence with the header matches not skipped, or the next one
to skip. -/
def round (plan : GroupPlan) (admission : Admission) (skipped : List ℕ) :
    Admission × Except Skip (List Brought) :=
  match plan.chooseAll skipped [] plan.originals with
  | .error skip => (admission, .error skip)
  | .ok chosen =>
      let tier := chosen.flatMap predicated
      match admission.firstUnsettled tier with
      | (admission, some conflict) => (admission, .error (overlapProblem conflict))
      | (admission, none) =>
          (admission, .ok ((tier.filter Predicated.copy).map fun entry =>
            (entry.owner.1, entry.rule)))

/-- Plan again after every skip. -/
def rounds (plan : GroupPlan) : ℕ → Admission → List Skip → List Brought × List Skip
  | 0, _, skips => ([], skips)
  | fuel + 1, admission, skips =>
      match plan.round admission (skips.map Prod.fst) with
      | (_, .ok copies) => (copies, skips)
      | (admission, .error skip) => rounds plan fuel admission (skips ++ [skip])

end GroupPlan

/-- The header matches of a group. -/
def headerMatched (members : List Member) : List Member :=
  members.filter fun m => !m.2.frontend.headerMatches.isEmpty

variable [External]

/-- The copies one group adds and the header matches it skips: a round for each header
match within the cap, and one more. -/
def planGroup (members : List Member) : List Brought × List Skip :=
  let originals := (headerMatched members).take maxHeaderMatchesPerHostname
  let skips := ((headerMatched members).drop maxHeaderMatchesPerHostname).map fun m =>
    (m.1, Problem.headerMatchLimit m.2.frontend.hostname maxHeaderMatchesPerHostname)
  if originals = [] then ([], skips)
  else (GroupPlan.of members originals).rounds (originals.length + 1) {} skips

/-! ## All groups -/

/-- A Sōzu hostname leaf on one listener. -/
abbrev Group := Bool ×ₗ (SocketAddr ×ₗ String)

def groupOf (f : Frontend) : Group := toLex (f.tls, toLex (f.listener, f.hostname))

/-- The frontends of each group, with their places. -/
def groupsOf (frontends : List SourcedFrontend) : BTreeMap Group (List Member) :=
  frontends.zipIdx.foldl (fun groups (sf, place) =>
    groups.insert (groupOf sf.frontend)
      (groups[groupOf sf.frontend]?.getD [] ++ [(place, sf)])) ∅

/-- What the lifting gives: the frontends it keeps, the copies it adds, and the skips it
reports. -/
structure Lifted where
  kept : List SourcedFrontend
  copies : List Frontend
  problems : List (FrontendSource × Problem)

/-- A skip as it is reported: on the frontends folded into the skipped one, then on its
own object. -/
def skipReports (frontends folded : List SourcedFrontend) (skip : Skip) :
    List (FrontendSource × Problem) :=
  match frontends[skip.1]? with
  | none => []
  | some sf =>
      (((folded.filter fun f => routeKey f.frontend = routeKey sf.frontend).map
        SourcedFrontend.source) ++ [sf.source]).map fun source => (source, skip.2)

/-- Rebuild Gateway API precedence for header-matched routes. -/
def liftHeaderMatches (frontends folded : List SourcedFrontend) : Lifted :=
  let plans := (groupsOf frontends).toList.map fun group => planGroup group.2
  let skips := plans.flatMap Prod.snd
  { kept := (frontends.zipIdx.filter fun x => x.2 ∉ skips.map Prod.fst).map Prod.fst
    copies := (sortBy Prod.fst (plans.flatMap Prod.fst)).map Prod.snd
    problems := skips.flatMap (skipReports frontends folded) }

end Words

end Builder

end SozuGateway
