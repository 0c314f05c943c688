import SozuGateway.Addresses
import SozuGateway.Builder.Copies

/-!
# The route key tells the match

A route key joins its parts with bare semicolons.  On the paths the builder compiles itself
the parts can still be told apart.

* `debugStr_append_inj`, `predicateSuffix_prefixFree` — a quoted text, and so a header
  predicate, is read off the front of a key whatever it holds.
* `spelled_append_inj` — so is a compiled rule: an unescaped parenthesis ends its literal.
* `Spellable`, `route_key_eq_iff` — two frontends of the kind share a route key exactly when
  they match the same requests; a collision of keys alone, and a copy whose key another
  match took, need a regex path.
-/

set_option autoImplicit false

namespace SozuGateway

open Lib

/-! ## Quoted text -/

section Quoting

variable [CharTable]

/-- The letter of an escape of one letter. -/
def escapeLetter (c : Char) : Option Char :=
  if c = '\x00' then some '0'
  else if c = '\t' then some 't'
  else if c = '\r' then some 'r'
  else if c = '\n' then some 'n'
  else if c = '"' then some '"'
  else if c = '\\' then some '\\'
  else none

/-- The characters with an escape of one letter, and the letters. -/
def letters : List (Char × Char) :=
  [('\x00', '0'), ('\t', 't'), ('\r', 'r'), ('\n', 'n'), ('"', '"'), ('\\', '\\')]

omit [CharTable] in
theorem mem_letters {c d : Char} (h : escapeLetter c = some d) : (c, d) ∈ letters := by
  unfold escapeLetter at h
  split_ifs at h <;> obtain rfl := Option.some.inj h <;> subst c <;> decide

omit [CharTable] in
theorem escapeLetter_inj {c c' d : Char} (h : escapeLetter c = some d)
    (h' : escapeLetter c' = some d) : c = c' := by
  have hall : ∀ x ∈ letters, ∀ y ∈ letters, x.2 = y.2 → x.1 = y.1 := by decide
  exact hall _ (mem_letters h) _ (mem_letters h') rfl

omit [CharTable] in
theorem escapeLetter_ne_u {c d : Char} (h : escapeLetter c = some d) : d ≠ 'u' := by
  have hall : ∀ x ∈ letters, x.2 ≠ 'u' := by decide
  exact hall _ (mem_letters h)

omit [CharTable] in
theorem ne_of_escapeLetter_eq_none {c : Char} (h : escapeLetter c = none) :
    c ≠ '\\' ∧ c ≠ '"' := by
  constructor <;> rintro rfl <;> exact absurd h (by decide)

/-- A character is printed as it is, as a letter after a backslash, or as its code. -/
theorem escapeDebug_cases (c : Char) :
    (escapeDebug c = [c] ∧ c ≠ '\\' ∧ c ≠ '"') ∨
      (∃ d, escapeLetter c = some d ∧ escapeDebug c = ['\\', d]) ∨
        escapeDebug c = '\\' :: 'u' :: '\x7b' :: (Nat.toDigits 16 c.toNat ++ ['\x7d']) := by
  have heq : escapeDebug c =
      match escapeLetter c with
      | some d => ['\\', d]
      | none =>
          if CharTable.printable c then [c]
          else '\\' :: 'u' :: '\x7b' :: (Nat.toDigits 16 c.toNat ++ ['\x7d']) := by
    unfold escapeDebug escapeLetter
    split_ifs <;> rfl
  rw [heq]
  cases h : escapeLetter c with
  | some d => exact .inr (.inl ⟨d, rfl, rfl⟩)
  | none =>
    by_cases hprint : CharTable.printable c = true
    · exact .inl ⟨if_pos hprint, ne_of_escapeLetter_eq_none h⟩
    · exact .inr (.inr (if_neg hprint))

theorem escapeDebug_head (c : Char) : ∃ d t, escapeDebug c = d :: t ∧ d ≠ '"' := by
  rcases escapeDebug_cases c with ⟨h, -, hquote⟩ | ⟨d, -, h⟩ | h
  · exact ⟨c, [], h, hquote⟩
  · exact ⟨'\\', [d], h, by decide⟩
  · exact ⟨'\\', _, h, by decide⟩

omit [CharTable] in
theorem brace_notMem_toDigits (n : ℕ) : '\x7d' ∉ Nat.toDigits 16 n := fun h =>
  absurd (mem_digits_of_mem_toDigits (by decide) (by decide) h) (by decide)

/-- **No escape starts another**, whatever the table prints. -/
theorem escapeDebug_prefixFree : PrefixFree escapeDebug := by
  rintro c c' ⟨r, heq⟩
  rcases escapeDebug_cases c with ⟨h, hne, -⟩ | ⟨d, hd, h⟩ | h <;>
    rcases escapeDebug_cases c' with ⟨h', hne', -⟩ | ⟨d', hd', h'⟩ | h' <;>
    rw [h, h'] at heq <;>
    simp only [List.cons_append, List.nil_append, List.append_assoc, List.cons.injEq,
      true_and] at heq
  · exact heq.1
  · exact absurd heq.1 hne
  · exact absurd heq.1 hne
  · exact absurd heq.1.symm hne'
  · exact escapeLetter_inj hd (heq.1 ▸ hd')
  · exact absurd heq.1 (escapeLetter_ne_u hd)
  · exact absurd heq.1.symm hne'
  · exact absurd heq.1.symm (escapeLetter_ne_u hd')
  · -- two numerals, each up to its brace
    have hcode := (append_mark_inj (brace_notMem_toDigits _) (brace_notMem_toDigits _) heq).1
    exact Char.toNat_inj.1 (toDigits_injective (by decide) (by decide) hcode)

/-- A quoted text ends at its quote. -/
theorem debugStr_append_inj {s s' : String} {r r' : List Char}
    (h : debugStr s ++ r = debugStr s' ++ r') : s = s' ∧ r = r' := by
  simp only [debugStr, List.cons_append, List.append_assoc, List.cons.injEq, true_and,
    List.nil_append] at h
  obtain ⟨hs, hr⟩ := escapeDebug_prefixFree.terminated escapeDebug_head h
  exact ⟨String.toList_inj.1 hs, hr⟩

/-! ## Header predicates -/

/-- A header predicate after its `;H`. -/
theorem predicateSuffix_append (m : HeaderMatch) (r : List Char) :
    predicateSuffix m ++ r = ';' :: 'H' :: (Nat.toDigits 10 m.kind.sozuKindAndValue.1 ++
      ':' :: (debugStr m.name ++ '=' :: (debugStr m.kind.sozuKindAndValue.2 ++ r))) := by
  simp [predicateSuffix]

omit [CharTable] in
theorem sozuKindAndValue_injective : Function.Injective HeaderMatchKind.sozuKindAndValue := by
  intro k k' h
  cases k <;> cases k' <;> simp_all [HeaderMatchKind.sozuKindAndValue]

/-- **No header predicate starts another.** -/
theorem predicateSuffix_prefixFree : PrefixFree predicateSuffix := by
  rintro ⟨name, kind⟩ ⟨name', kind'⟩ ⟨r, h⟩
  rw [← List.append_nil (predicateSuffix ⟨name', kind'⟩), predicateSuffix_append,
    predicateSuffix_append] at h
  have hstop : ∀ t, Stops Char.isDigit (':' :: t) := fun t => stops_cons (by decide)
  simp only [List.cons.injEq, true_and] at h
  obtain ⟨hnumber, hrest⟩ := toDigits_append_inj (hstop _) (hstop _) h
  obtain ⟨hname, htail⟩ := debugStr_append_inj (List.cons.inj hrest).2
  obtain ⟨hvalue, -⟩ := debugStr_append_inj (List.cons.inj htail).2
  rw [show name = name' from hname, sozuKindAndValue_injective (Prod.ext hnumber hvalue)]

/-- A list of header predicates is told by its suffixes. -/
theorem predicates_injective {ms ms' : List HeaderMatch}
    (h : ms.flatMap predicateSuffix = ms'.flatMap predicateSuffix) : ms = ms' := by
  have hhead : ∀ m : HeaderMatch, ∃ c t, predicateSuffix m = c :: t ∧ c ≠ ':' := fun m =>
    ⟨';', _, by rw [← List.append_nil (predicateSuffix m), predicateSuffix_append], by decide⟩
  exact (predicateSuffix_prefixFree.terminated hhead (congrArg (· ++ [':']) h)).1

end Quoting

/-! ## Path rules -/

/-- The word `regexEscape` writes for a character. -/
def escapeWord (c : Char) : List Char := if c ∈ metacharacters then ['\\', c] else [c]

theorem escapeWord_prefixFree : PrefixFree escapeWord := by
  rintro c c' ⟨r, h⟩
  have hbackslash : ∀ d ∉ metacharacters, d ≠ '\\' := by
    rintro d hd rfl
    exact hd (by decide)
  unfold escapeWord at h
  by_cases hc : c ∈ metacharacters <;> by_cases hc' : c' ∈ metacharacters
  · simp_all
  · have := hbackslash c' hc'
    simp_all
  · have := hbackslash c hc
    simp_all
  · simp_all

theorem escapeWord_head (c : Char) : ∃ d t, escapeWord c = d :: t ∧ d ≠ '(' := by
  unfold escapeWord
  by_cases hc : c ∈ metacharacters
  · exact ⟨'\\', [c], if_pos hc, by decide⟩
  · refine ⟨c, [], if_neg hc, ?_⟩
    rintro rfl
    exact hc (by decide)

/-- An escaped literal ends at the parenthesis that follows it. -/
theorem regexEscape_append_inj {l l' r r' : List Char}
    (h : regexEscape l ++ '(' :: r = regexEscape l' ++ '(' :: r') : l = l' ∧ r = r' :=
  escapeWord_prefixFree.terminated escapeWord_head h

theorem spelled_exact (v : String) (r : List Char) :
    (PathMatch.exact v).sozuRule.spelled ++ r = 'R' :: '^' :: (regexEscape v.toList ++
      '(' :: '?' :: ':' :: '\\' :: '?' :: (remainder ++ ')' :: '?' :: '$' :: r)) := by
  simp [PathMatch.sozuRule, SozuPathRule.spelled]

theorem spelled_pathPrefix (v : String) (r : List Char) :
    (PathMatch.pathPrefix v).sozuRule.spelled ++ r =
      if trimEndSlashes v.toList = [] then 'P' :: '/' :: r
      else 'R' :: '^' :: (regexEscape (trimEndSlashes v.toList) ++
        '(' :: '?' :: ':' :: '[' :: '/' :: '?' :: ']' ::
          (remainder ++ ')' :: '?' :: '$' :: r)) := by
  unfold PathMatch.sozuRule
  dsimp only
  split_ifs <;> simp [SozuPathRule.spelled]

theorem sozuRule_pathPrefix_congr {v v' : String}
    (h : trimEndSlashes v.toList = trimEndSlashes v'.toList) :
    (PathMatch.pathPrefix v).sozuRule = (PathMatch.pathPrefix v').sozuRule := by
  simp only [PathMatch.sozuRule, h]

/-- **A compiled rule is read off the front of a text.** -/
theorem spelled_append_inj {p q : PathMatch} (hp : ∀ v, p ≠ .regex v) (hq : ∀ v, q ≠ .regex v)
    {r s : List Char} (h : p.sozuRule.spelled ++ r = q.sozuRule.spelled ++ s) :
    p.sozuRule = q.sozuRule ∧ r = s := by
  cases p with
  | regex v => exact absurd rfl (hp v)
  | exact v =>
    cases q with
    | regex w => exact absurd rfl (hq w)
    | exact w =>
      rw [spelled_exact, spelled_exact] at h
      simp only [List.cons.injEq, true_and] at h
      obtain ⟨hliteral, hrest⟩ := regexEscape_append_inj h
      simp only [List.cons.injEq, true_and, List.append_cancel_left_eq] at hrest
      exact ⟨by rw [String.toList_inj.1 hliteral], hrest⟩
    | pathPrefix w =>
      -- the exact path's tail opens with a backslash, the prefix's with a bracket
      rw [spelled_exact, spelled_pathPrefix] at h
      split_ifs at h
      · simp at h
      · simp only [List.cons.injEq, true_and] at h
        have hrest := (regexEscape_append_inj h).2
        simp at hrest
  | pathPrefix v =>
    cases q with
    | regex w => exact absurd rfl (hq w)
    | exact w =>
      rw [spelled_exact, spelled_pathPrefix] at h
      split_ifs at h
      · simp at h
      · simp only [List.cons.injEq, true_and] at h
        have hrest := (regexEscape_append_inj h).2
        simp at hrest
    | pathPrefix w =>
      rw [spelled_pathPrefix, spelled_pathPrefix] at h
      split_ifs at h with hv hw hw
      · simp only [List.cons.injEq, true_and] at h
        exact ⟨sozuRule_pathPrefix_congr (hv.trans hw.symm), h⟩
      · simp at h
      · simp at h
      · simp only [List.cons.injEq, true_and] at h
        obtain ⟨hliteral, hrest⟩ := regexEscape_append_inj h
        simp only [List.cons.injEq, true_and, List.append_cancel_left_eq] at hrest
        exact ⟨sozuRule_pathPrefix_congr hliteral, hrest⟩

/-! ## Methods -/

/-- The characters of an HTTP token. -/
def isTokenChar (c : Char) : Bool :=
  c.isAlphanum || c ∈ "!#$%&'*+-.^_".toList || c = '\x60' || c = '|' || c = '~'

/-- An HTTP token: what a method may be. -/
def IsToken (s : String) : Prop := s ≠ "" ∧ ∀ c ∈ s.toList, isTokenChar c = true

section Methods

variable [CharTable]

/-- A method as a route key spells it. -/
def methodSuffix : Option String → List Char
  | none => []
  | some method => ';' :: method.toList

theorem matchSuffix_eq (f : Frontend) :
    f.matchSuffix = f.path.sozuRule.spelled ++ (methodSuffix f.method ++
      (HeaderMatch.canonical f.headerMatches).flatMap predicateSuffix) := by
  rw [Frontend.matchSuffix, List.append_assoc]
  cases f.method <;> rfl

theorem predicates_stop (ms : List HeaderMatch) :
    Stops isTokenChar (ms.flatMap predicateSuffix) := by
  cases ms with
  | nil => exact stops_nil _
  | cons m ms =>
    rw [List.flatMap_cons, predicateSuffix_append]
    exact stops_cons (by decide)

/-- A method is not what header predicates start with. -/
theorem method_ne_predicates {m : String} (hm : IsToken m) (ms ms' : List HeaderMatch) :
    ';' :: m.toList ++ ms.flatMap predicateSuffix ≠ ms'.flatMap predicateSuffix := by
  intro h
  cases ms' with
  | nil => simp at h
  | cons n ns =>
    rw [List.flatMap_cons, predicateSuffix_append, List.cons_append] at h
    have h := (List.cons.inj h).2
    have hkind : ∀ c ∈ 'H' :: Nat.toDigits 10 n.kind.sozuKindAndValue.1, isTokenChar c = true := by
      intro c hc
      rcases List.mem_cons.1 hc with rfl | hc
      · decide
      · have hdigit := Nat.isDigit_of_mem_toDigits (by decide) (by decide) hc
        simp [isTokenChar, Char.isAlphanum, hdigit]
    rw [← List.cons_append] at h
    obtain ⟨-, hrest⟩ := append_inj_of_stop hm.2 hkind (predicates_stop ms)
      (stops_cons (by decide)) h
    cases ms with
    | nil => simp at hrest
    | cons k ks =>
      rw [List.flatMap_cons, predicateSuffix_append] at hrest
      simp at hrest

/-- **The method and the header predicates are told apart.** -/
theorem methodSuffix_append_inj {m m' : Option String} (hm : ∀ t ∈ m, IsToken t)
    (hm' : ∀ t ∈ m', IsToken t) {ms ms' : List HeaderMatch}
    (h : methodSuffix m ++ ms.flatMap predicateSuffix =
      methodSuffix m' ++ ms'.flatMap predicateSuffix) : m = m' ∧ ms = ms' := by
  cases m with
  | none =>
    cases m' with
    | none => exact ⟨rfl, predicates_injective h⟩
    | some t' => exact absurd h.symm (method_ne_predicates (hm' t' rfl) _ _)
  | some t =>
    cases m' with
    | none => exact absurd h (method_ne_predicates (hm t rfl) _ _)
    | some t' =>
      obtain ⟨ht, hms⟩ := append_inj_of_stop (hm t rfl).2 (hm' t' rfl).2 (predicates_stop ms)
        (predicates_stop ms') (List.cons.inj h).2
      exact ⟨congrArg some (String.toList_inj.1 ht), predicates_injective hms⟩

end Methods

namespace Builder

/-! ## Frontends -/

/-- A frontend whose hostname, method and listener a route key spells without ambiguity. -/
structure Spellable (f : Frontend) : Prop where
  hostname : ';' ∉ f.hostname.toList
  method : ∀ t ∈ f.method, IsToken t
  listener : f.listener.IsPlain

/-- The path is the user's own pattern. -/
def HasRegexPath (f : Frontend) : Prop := isRegexPath f.path = true

theorem ne_regex_of_not_hasRegexPath {f : Frontend} (h : ¬HasRegexPath f) :
    ∀ v, f.path ≠ .regex v := by
  intro v hv
  rw [HasRegexPath, hv] at h
  exact h rfl

/-- A copy is spelled like the two frontends it is made of. -/
theorem Spellable.liftedCopy {u p : Frontend} (hu : Spellable u) (hp : Spellable p) :
    Spellable (liftedCopy u p) where
  hostname := hu.hostname
  method := by
    intro t ht
    have hor : u.method.or p.method = some t := ht
    cases hmethod : u.method with
    | none =>
      rw [hmethod, Option.none_or] at hor
      exact hp.method t hor
    | some m =>
      rw [hmethod, Option.some_or] at hor
      exact hu.method t (hmethod.trans hor)
  listener := hu.listener

theorem sameMatch_iff {a b : Frontend} :
    sameMatch a b = true ↔ a.tls = b.tls ∧ a.listener = b.listener ∧ a.hostname = b.hostname ∧
      a.path.sozuRule = b.path.sozuRule ∧ a.method = b.method ∧
        HeaderMatch.canonical a.headerMatches = HeaderMatch.canonical b.headerMatches := by
  simp [sameMatch]

section Keys

variable [CharTable]

/-- Frontends that match the same requests have one key, whatever their paths. -/
theorem routeKey_eq_of_sameMatch {a b : Frontend} (h : sameMatch a b = true) :
    routeKey a = routeKey b := by
  obtain ⟨htls, hlistener, hhostname, hpath, hmethod, hheaders⟩ := sameMatch_iff.1 h
  simp only [routeKey, Frontend.sozuRouteKey, matchSuffix_eq, htls, hlistener, hhostname, hpath,
    hmethod, hheaders]

/-- **A route key of the kind is read back part by part.** -/
theorem sameMatch_of_routeKey_eq {a b : Frontend} (ha : Spellable a) (hb : Spellable b)
    (hpa : ¬HasRegexPath a) (hpb : ¬HasRegexPath b) (h : routeKey a = routeKey b) :
    sameMatch a b = true := by
  have hdisplay : ∀ x : SocketAddr, ';' ∉ x.display := fun x hmem =>
    absurd (SocketAddr.mem_alphabet_of_mem_display hmem) (by decide)
  have htls : a.tls = b.tls := congrArg SozuRouteKey.https h
  have hkey := String.ofList_injective (congrArg SozuRouteKey.key h)
  rw [List.append_assoc, List.append_assoc, List.cons_append, List.cons_append] at hkey
  obtain ⟨hlistener, hkey⟩ := append_mark_inj (hdisplay _) (hdisplay _) hkey
  obtain ⟨hhostname, hkey⟩ := append_mark_inj ha.hostname hb.hostname hkey
  rw [matchSuffix_eq, matchSuffix_eq] at hkey
  obtain ⟨hpath, hkey⟩ := spelled_append_inj (ne_regex_of_not_hasRegexPath hpa)
    (ne_regex_of_not_hasRegexPath hpb) hkey
  obtain ⟨hmethod, hheaders⟩ := methodSuffix_append_inj ha.method hb.method hkey
  have hplain := SocketAddr.display_injective (SocketAddr.isPlain_plain _)
    (SocketAddr.isPlain_plain _) hlistener
  rw [show a.listener.plain = a.listener from ha.listener,
    show b.listener.plain = b.listener from hb.listener] at hplain
  exact sameMatch_iff.2
    ⟨htls, hplain, String.toList_inj.1 hhostname, hpath, hmethod, hheaders⟩

theorem routeKey_eq_iff_sameMatch {a b : Frontend} (ha : Spellable a) (hb : Spellable b)
    (hpa : ¬HasRegexPath a) (hpb : ¬HasRegexPath b) :
    routeKey a = routeKey b ↔ sameMatch a b = true :=
  ⟨sameMatch_of_routeKey_eq ha hb hpa hpb, routeKey_eq_of_sameMatch⟩

/-! ## Collisions of keys alone -/

/-- **Two frontends collide by their keys alone only over a regex path.** -/
theorem hasRegexPath_of_keyOnly {frontends : List SourcedFrontend}
    {claims : BTreeMap OwnerIdent OwnerClaim} (hspell : ∀ sf ∈ frontends, Spellable sf.frontend)
    {source : FrontendSource} {hostname path winner : String}
    (h : (source, .routeCollision hostname path winner true) ∈
      (resolveFrontendCollisions frontends claims).collisions) :
    ∃ holder ∈ frontends, ∃ sf ∈ frontends, sf.source = source ∧
      routeKey holder.frontend = routeKey sf.frontend ∧
        (HasRegexPath holder.frontend ∨ HasRegexPath sf.frontend) := by
  rw [collisions_resolve] at h
  obtain ⟨sf, hsf, hverdict⟩ := List.mem_filterMap.1 h
  cases hfirst : firstOf (settled claims frontends) sf.key with
  | none =>
    rw [hfirst] at hverdict
    cases hverdict
  | some holder =>
    rw [hfirst, verdict] at hverdict
    split_ifs at hverdict
    have hkey : holder.key = sf.key := by simpa using List.find?_some hfirst
    have hholder := mem_settled.1 (List.mem_of_find?_eq_some hfirst)
    have hsf := mem_settled.1 hsf
    obtain ⟨hsource, hproblem⟩ := Prod.mk.inj (Option.some.inj hverdict)
    refine ⟨holder, hholder, sf, hsf, hsource, hkey, ?_⟩
    by_contra hnone
    obtain ⟨hplain, hplain'⟩ := not_or.1 hnone
    have hsame := sameMatch_of_routeKey_eq (hspell _ hholder) (hspell _ hsf) hplain hplain' hkey
    simp [routeCollision, hsame] at hproblem

/-! ## Copies whose key is taken -/

/-- The skip of a header match a copy of which has the key of a frontend so named. -/
def IsCopyKeyTaken (name : String) (skip : Skip) : Prop :=
  ∃ hostname headerMatch route,
    skip.2 = .headerMatchCopyKeyTaken hostname headerMatch route name

namespace GroupPlan

variable {plan : GroupPlan}

/-- A candidate another match's key keeps out. -/
theorem holder_of_choose {skipped : List ℕ} {brought : List SozuRouteKey} {p : Member}
    {fresh : List Candidate} {candidate : Candidate} {skip : Skip}
    (h : choose skipped brought p fresh candidate = .error skip) {name : String}
    (htaken : IsCopyKeyTaken name skip) :
    ∃ holder, candidate.holder = some holder ∧ describeSource holder.2 = name ∧
      sameMatch holder.2.frontend candidate.rule = false := by
  obtain ⟨hostname, headerMatch, route, hskip⟩ := htaken
  unfold choose at h
  split at h
  · rename_i holder hholder
    obtain ⟨hheld, -⟩ := Option.filter_eq_some_iff.1 hholder
    split at h
    · cases h
    · rename_i hsame
      obtain rfl := Except.error.inj h
      injection hskip with _ _ _ hname
      exact ⟨holder, hheld, hname, Bool.not_eq_true _ ▸ hsame⟩
  · split_ifs at h
    obtain rfl := Except.error.inj h
    cases hskip

/-- The holder of a key is a frontend of the group with that key. -/
theorem mem_of_held {members originals : List Member} {key : SozuRouteKey} {holder : Member}
    (h : (of members originals).held[key]? = some holder) :
    holder ∈ members ∧ routeKey holder.2.frontend = key := by
  have hfold : ∀ (l : List Member) (held : BTreeMap SozuRouteKey Member),
      (∀ key holder, held[key]? = some holder → holder ∈ members ∧
        routeKey holder.2.frontend = key) → (∀ m ∈ l, m ∈ members) →
        ∀ key holder, (l.foldl (fun held m => held.insert (routeKey m.2.frontend) m) held)[key]? =
          some holder → holder ∈ members ∧ routeKey holder.2.frontend = key := by
    intro l
    induction l with
    | nil => exact fun _ hheld _ => hheld
    | cons m l ih =>
      intro held hheld hl
      refine ih _ (fun key holder hat => ?_) fun n hn => hl n (List.mem_cons_of_mem _ hn)
      rw [BTreeMap.getElem?_insert] at hat
      split_ifs at hat with hkey
      · obtain rfl := Option.some.inj hat
        exact ⟨hl m List.mem_cons_self, hkey⟩
      · exact hheld key holder hat
  refine hfold members ∅ (fun key holder hat => ?_) (fun _ hm => hm) key holder h
  rw [BTreeMap.getElem?_empty] at hat
  cases hat

/-- **A copy finds its key taken by another match only over a regex path**: the one that
took it has one. -/
theorem hasRegexPath_of_chooseAll {members originals : List Member}
    (hspell : ∀ m ∈ members, Spellable m.2.frontend) (hsub : ∀ m ∈ originals, m ∈ members)
    {skipped : List ℕ} {skip : Skip}
    (h : (of members originals).chooseAll skipped [] originals = .error skip) {name : String}
    (htaken : IsCopyKeyTaken name skip) :
    ∃ m ∈ members, HasRegexPath m.2.frontend ∧ describeSource m.2 = name := by
  obtain ⟨p, hp, -, brought, fresh, c, hc, hskip⟩ := exists_of_chooseAll h
  obtain ⟨holder, hholder, hname, hdiffers⟩ := holder_of_choose hskip htaken
  unfold candidates at hc
  split_ifs at hc
  · cases hc
  obtain ⟨u, hu, rfl⟩ := List.mem_map.1 hc
  obtain ⟨humem, hplain⟩ := List.mem_filter.1 (List.mem_of_mem_filter hu)
  obtain ⟨hmem, hkey⟩ := mem_of_held hholder
  refine ⟨holder, hmem, by_contra fun hregex => ?_, hname⟩
  have hcopy := (hspell u humem).liftedCopy (hspell p (hsub p hp))
  have hcopyPath : ¬HasRegexPath (liftedCopy u.2.frontend p.2.frontend) := by
    have hpath := (Bool.and_eq_true_iff.1 hplain).2
    simpa [HasRegexPath, liftedCopy] using hpath
  have hsame := sameMatch_of_routeKey_eq (hspell holder hmem) hcopy hregex hcopyPath hkey
  rw [hsame] at hdiffers
  cases hdiffers

variable [External]

/-- A skip of the rounds is one they start with or one a round asks for. -/
theorem mem_skips_rounds {fuel : ℕ} {admission : Admission} {skips : List Skip} {skip : Skip}
    (h : skip ∈ (plan.rounds fuel admission skips).2) :
    skip ∈ skips ∨ ∃ admission' skipped, (plan.round admission' skipped).2 = .error skip := by
  induction fuel generalizing admission skips with
  | zero => exact .inl h
  | succ fuel ih =>
    unfold rounds at h
    split at h
    · exact .inl h
    · rename_i next found hround
      rcases ih h with hskip | hskip
      · rcases List.mem_append.1 hskip with hold | hnew
        · exact .inl hold
        · obtain rfl := List.mem_singleton.1 hnew
          exact .inr ⟨admission, skips.map Prod.fst, by rw [hround]⟩
      · exact .inr hskip

omit [External] in
theorem not_isCopyKeyTaken_overlapProblem (name : String) (c : Conflict) :
    ¬IsCopyKeyTaken name (overlapProblem c) := by
  rintro ⟨hostname, headerMatch, route, h⟩
  unfold overlapProblem at h
  dsimp only at h
  split_ifs at h

theorem hasRegexPath_of_round {members originals : List Member}
    (hspell : ∀ m ∈ members, Spellable m.2.frontend) (hsub : ∀ m ∈ originals, m ∈ members)
    {admission : Admission} {skipped : List ℕ} {skip : Skip}
    (h : ((of members originals).round admission skipped).2 = .error skip) {name : String}
    (htaken : IsCopyKeyTaken name skip) :
    ∃ m ∈ members, HasRegexPath m.2.frontend ∧ describeSource m.2 = name := by
  unfold round at h
  split at h
  · rename_i found hfound
    obtain rfl := Except.error.inj h
    exact hasRegexPath_of_chooseAll hspell hsub hfound htaken
  · dsimp only at h
    split at h
    · obtain rfl := Except.error.inj h
      exact absurd htaken (not_isCopyKeyTaken_overlapProblem name _)
    · cases h

end GroupPlan

variable [External]

theorem hasRegexPath_of_planGroup {members : List Member}
    (hspell : ∀ m ∈ members, Spellable m.2.frontend) {skip : Skip}
    (h : skip ∈ (planGroup members).2) {name : String} (htaken : IsCopyKeyTaken name skip) :
    ∃ m ∈ members, HasRegexPath m.2.frontend ∧ describeSource m.2 = name := by
  have hlimit : skip ∉ ((headerMatched members).drop maxHeaderMatchesPerHostname).map fun m =>
      (m.1, Problem.headerMatchLimit m.2.frontend.hostname maxHeaderMatchesPerHostname) := by
    intro hmem
    obtain ⟨m, -, rfl⟩ := List.mem_map.1 hmem
    obtain ⟨hostname, headerMatch, route, hskip⟩ := htaken
    cases hskip
  unfold planGroup at h
  dsimp only at h
  split_ifs at h
  · exact absurd h hlimit
  · rcases GroupPlan.mem_skips_rounds h with hold | ⟨admission, skipped, hround⟩
    · exact absurd hold hlimit
    · refine GroupPlan.hasRegexPath_of_round hspell (fun m hm => ?_) hround htaken
      exact List.mem_of_mem_filter (List.mem_of_mem_take hm)

/-- **The route key is injective on the paths the builder compiles itself**: frontends
share one exactly when they match the same requests, so one of two that collide by their keys
alone has a regex path, and so has a frontend that took the key of a copy for another match. -/
theorem route_key_eq_iff :
    (∀ a b : Frontend, Spellable a → Spellable b → ¬HasRegexPath a → ¬HasRegexPath b →
      (routeKey a = routeKey b ↔ sameMatch a b = true)) ∧
    (∀ (frontends : List SourcedFrontend) (claims : BTreeMap OwnerIdent OwnerClaim),
      (∀ sf ∈ frontends, Spellable sf.frontend) →
        ∀ source hostname path winner, (source, Problem.routeCollision hostname path winner true) ∈
          (resolveFrontendCollisions frontends claims).collisions →
            ∃ holder ∈ frontends, ∃ sf ∈ frontends, sf.source = source ∧
              routeKey holder.frontend = routeKey sf.frontend ∧
                (HasRegexPath holder.frontend ∨ HasRegexPath sf.frontend)) ∧
    (∀ frontends folded : List SourcedFrontend, (∀ sf ∈ frontends, Spellable sf.frontend) →
      ∀ source hostname headerMatch route holder,
        (source, Problem.headerMatchCopyKeyTaken hostname headerMatch route holder) ∈
          (liftHeaderMatches frontends folded).problems →
            ∃ sf ∈ frontends, HasRegexPath sf.frontend ∧ describeSource sf = holder) := by
  refine ⟨fun a b ha hb hpa hpb => routeKey_eq_iff_sameMatch ha hb hpa hpb,
    fun frontends claims hspell source hostname path winner => hasRegexPath_of_keyOnly hspell,
    fun frontends folded hspell source hostname headerMatch route holder h => ?_⟩
  obtain ⟨skip, hskip, hreport⟩ := List.mem_flatMap.1 h
  obtain ⟨plan, hplan, hmem⟩ := List.mem_flatMap.1 hskip
  obtain ⟨⟨group, members⟩, hgroup, rfl⟩ := List.mem_map.1 hplan
  have htaken : IsCopyKeyTaken holder skip := by
    unfold skipReports at hreport
    split at hreport
    · cases hreport
    · obtain ⟨_, -, heq⟩ := List.mem_map.1 hreport
      exact ⟨hostname, headerMatch, route, congrArg Prod.snd heq⟩
  have hmembers : ∀ m ∈ members, m.2 ∈ frontends :=
    fun m hm => List.mem_of_getElem? (mem_groupsOf hgroup m hm).1
  obtain ⟨m, hm, hregex, hname⟩ := hasRegexPath_of_planGroup
    (fun m hm => hspell m.2 (hmembers m hm)) hmem htaken
  exact ⟨m.2, hmembers m hm, hregex, hname⟩

end Keys

attribute [local instance] External.plain Sozu.asciiTable in
/-- `GET /a` and the path `/a;GET` have keys of their own. -/
theorem route_key_eq_iff_semicolon :
    routeKey ⟨"h", .exact "/a", some "GET", none, true, .v4 ⟨0, 0, 0, 0⟩ 443, {}, []⟩ ≠
      routeKey ⟨"h", .exact "/a;GET", none, none, true, .v4 ⟨0, 0, 0, 0⟩ 443, {}, []⟩ := by
  have hget : IsToken "GET" := ⟨by decide, by simp [isTokenChar, Char.isAlphanum, Char.isAlpha,
    Char.isUpper]⟩
  have hmethod : Spellable
      ⟨"h", .exact "/a", some "GET", none, true, .v4 ⟨0, 0, 0, 0⟩ 443, {}, []⟩ :=
    ⟨by decide, fun t ht => Option.some.inj ht ▸ hget, rfl⟩
  have hpath : Spellable
      ⟨"h", .exact "/a;GET", none, none, true, .v4 ⟨0, 0, 0, 0⟩ 443, {}, []⟩ :=
    ⟨by decide, fun t ht => absurd ht (by simp), rfl⟩
  have hsame : sameMatch
      ⟨"h", .exact "/a", some "GET", none, true, .v4 ⟨0, 0, 0, 0⟩ 443, {}, []⟩
      ⟨"h", .exact "/a;GET", none, none, true, .v4 ⟨0, 0, 0, 0⟩ 443, {}, []⟩ = false := by
    simp [sameMatch]
  intro hkey
  have htrue := (route_key_eq_iff.1 _ _ hmethod hpath Bool.false_ne_true Bool.false_ne_true).1 hkey
  exact Bool.false_ne_true (hsame.symm.trans htrue)

end Builder

end SozuGateway
