import SozuGateway.Ir
import SozuGateway.Lib.Regex

/-!
# What a compiled path rule matches

* `SozuPathRule.Admits` — whether a rule admits a request target: a plain prefix by its
  bytes, a regex as Sōzu 2.2 runs it or, anchored, as Sōzu 2.3 does.
* `lexes_regexEscape` — an escaped literal is read back as its characters.
* `isMatch_ruleOf` — what the expression both kinds of path compile to matches.
* `Extends`, `admits_exact`, `admits_pathPrefix` — the targets of either kind, on one line
  beyond the path's literal.
* `sozu_rule_admits` — an exact path admits itself and itself with a query, a prefix the
  targets it covers at an element boundary.
-/

set_option autoImplicit false

namespace SozuGateway

open Lib Regex

/-! ## Reading a rule -/

/-- A pattern as Sōzu 2.3 runs it. -/
def anchoredPattern (pattern : List Char) : List Char :=
  "\\A(?:".toList ++ pattern ++ ")\\z".toList

/-- The rule admits the request target. -/
def SozuPathRule.Admits (anchored : Bool) (target : List UInt8) : SozuPathRule → Prop
  | .plainPrefix value => utf8 value.toList <+: target
  | .regex value =>
      ∃ r, parse (if anchored then anchoredPattern value.toList else value.toList) = some r ∧
        r.IsMatch target

/-! ## The expression of a rule -/

theorem mem_metacharacters {c : Char} :
    c ∈ SozuGateway.metacharacters ↔
      c ∈ ['\\', '.', '+', '*', '?', '(', ')', '|', '[', ']', '\x7b', '\x7d', '^', '$'] := by
  show c ∈ "\\.+*?()|[]\x7b\x7d^$".toList ↔ _
  simp only [String.reduceToList]

/-- What the rules escape may be escaped. -/
theorem metacharacters_subset : SozuGateway.metacharacters ⊆ Regex.metacharacters := by
  intro c hc
  have hc := mem_metacharacters.1 hc
  simp only [List.mem_cons, List.not_mem_nil, or_false] at hc
  rcases hc with rfl | rfl | rfl | rfl | rfl | rfl | rfl | rfl | rfl | rfl | rfl | rfl | rfl | rfl
  all_goals simp [Regex.metacharacters]

theorem lexes_regexEscape (l : List Char) : Lexes (regexEscape l) (l.map Token.literal) := by
  refine Lexes.flatMap (fun c => ?_) l
  by_cases hc : c ∈ SozuGateway.metacharacters
  · rw [if_pos hc]
    exact lexes_escaped (if_pos (metacharacters_subset hc))
  · rw [if_neg hc]
    rw [mem_metacharacters] at hc
    simp only [List.mem_cons, List.not_mem_nil, not_or, or_false] at hc
    refine lexes_plain (by tauto) (by tauto) (by tauto) ?_
    simp [plain, hc]

/-- What may follow a literal: the end, or a boundary and any bytes but a line feed. -/
def tailOf (boundary : Regex) : List Regex :=
  [.optional (concat [boundary, concat [.star (.dot false)]]), .textEnd]

/-- The expression of a rule: a literal from the start, and its tail. -/
def ruleOf (literal : List Char) (boundary : Regex) : Regex :=
  concat (.textStart :: (literal.map Regex.literal ++ tailOf boundary))

/-- The tokens of a rule's tail. -/
def tailTokens (boundary : Token) : List Token :=
  [.groupOpen true, boundary, .groupOpen false, .dot, .star, .groupClose, .groupClose, .optional,
    .textEnd]

theorem lexes_groupOpen : Lexes "(?:".toList [.groupOpen true] := fun rest => by
  show tokens none ('(' :: '?' :: ':' :: rest) = _
  rw [tokens]
  rfl

theorem lexes_remainder : Lexes (remainder ++ ")?$".toList)
    [.groupOpen false, .dot, .star, .groupClose, .groupClose, .optional, .textEnd] := by
  intro rest
  show tokens none ("(?-u:.*))?$".toList ++ rest) = _
  cases h : tokens none rest <;> simp [tokens, plain, h]

theorem lexes_query : Lexes "\\?".toList [.literal '?'] :=
  lexes_escaped (if_pos (metacharacters_subset (by decide)))

theorem lexes_boundary : Lexes "[/?]".toList [.oneOf ['/', '?']] := by
  intro rest
  show tokens none ("[/?]".toList ++ rest) = _
  simp [tokens, isListed]

/-- **A literal's tokens and its tail's make their expressions**, wherever they stand. -/
theorem assemble_rule {frames : List Frame} {items : List Regex} {l : List Char}
    {boundary : Token} {b : Regex} {ts : List Token}
    (hb : (boundary = .literal '?' ∧ b = .literal '?') ∨
      (boundary = .oneOf ['/', '?'] ∧ b = .oneOf ['/', '?'])) :
    assemble frames true items (l.map Token.literal ++ (tailTokens boundary ++ ts)) =
      assemble frames true ((l.map Regex.literal ++ tailOf b).reverse ++ items) ts := by
  rw [assemble_literals]
  rcases hb with ⟨rfl, rfl⟩ | ⟨rfl, rfl⟩ <;> simp [tailTokens, tailOf, assemble]

/-- **A rule's pattern denotes its expression.** -/
theorem parse_rule {pattern l : List Char} {boundary : Token} {b : Regex}
    (hlexes : Lexes pattern (.textStart :: (l.map Token.literal ++ tailTokens boundary)))
    (hb : (boundary = .literal '?' ∧ b = .literal '?') ∨
      (boundary = .oneOf ['/', '?'] ∧ b = .oneOf ['/', '?'])) :
    parse pattern = some (ruleOf l b) ∧
      parse (anchoredPattern pattern) =
        some (concat [.textStart, ruleOf l b, .textEnd]) := by
  constructor
  · have hassemble : assemble [] true [.textStart]
        (l.map Token.literal ++ (tailTokens boundary ++ [])) =
          assemble [] true ((l.map Regex.literal ++ tailOf b).reverse ++ [.textStart]) [] :=
      assemble_rule hb
    rw [List.append_nil] at hassemble
    rw [parse_of_lexes hlexes, assemble, hassemble, assemble]
    simp [ruleOf]
  · have hopen : Lexes "\\A(?:".toList [.textStart, .groupOpen true] :=
      (lexes_escaped (t := .textStart) rfl).append lexes_groupOpen
    have hclose : Lexes ")\\z".toList [.groupClose, .textEnd] :=
      (lexes_plain (by decide) (by decide) (by decide) rfl).append
        (lexes_escaped (t := .textEnd) rfl)
    rw [anchoredPattern, parse_of_lexes ((hopen.append hlexes).append hclose)]
    simp only [List.cons_append, List.nil_append, List.append_assoc, assemble, Bool.and_true]
    rw [assemble_rule hb]
    simp [assemble, ruleOf]

/-! ## What it matches -/

/-- The tail of a rule reads nothing, or a boundary and whatever follows it. -/
theorem matches_tailOf {b : Regex} {pre w post : List UInt8} :
    (concat (tailOf b)).Matches pre w post ↔
      post = [] ∧ (w = [] ∨ ∃ u v, w = u ++ v ∧ b.Matches pre u v ∧ lineFeed ∉ v) := by
  rw [tailOf, matches_concat_cons]
  constructor
  · rintro ⟨u, v, rfl, htail, hend⟩
    obtain ⟨rfl, rfl⟩ := matches_textEnd.1 (matches_concat_singleton.1 hend)
    refine ⟨rfl, ?_⟩
    simp only [List.append_nil] at htail ⊢
    rcases htail with rfl | hseq
    · exact .inl rfl
    · obtain ⟨b', v, rfl, hb, hv⟩ := matches_concat_cons.1 hseq
      have hv := matches_star_dot.1 (matches_concat_singleton.1 (matches_concat_singleton.1 hv))
      exact .inr ⟨b', v, rfl, by simpa using hb, hv⟩
  · rintro ⟨rfl, htail⟩
    refine ⟨w, [], by simp, ?_, matches_concat_singleton.2 ⟨rfl, rfl⟩⟩
    rcases htail with rfl | ⟨u, v, rfl, hb, hv⟩
    · exact .inl rfl
    · exact .inr (matches_concat_cons.2 ⟨u, v, rfl, by simpa using hb,
        matches_concat_singleton.2 (matches_concat_singleton.2 (matches_star_dot.2 hv))⟩)

/-- **The span of a rule is the whole text**: its literal, then nothing or a boundary and
whatever follows it. -/
theorem matches_ruleOf {l : List Char} {b : Regex} {pre w post : List UInt8} :
    (ruleOf l b).Matches pre w post ↔ pre = [] ∧ post = [] ∧
      (w = utf8 l ∨ ∃ u v, w = utf8 l ++ (u ++ v) ∧ b.Matches (utf8 l) u v ∧ lineFeed ∉ v) := by
  rw [ruleOf, matches_concat_textStart, matches_concat_literals]
  simp only [matches_tailOf, List.nil_append]
  constructor
  · rintro ⟨rfl, x, rfl, rfl, rfl | ⟨u, v, rfl, hb, hv⟩⟩
    · exact ⟨rfl, rfl, .inl (List.append_nil _)⟩
    · exact ⟨rfl, rfl, .inr ⟨u, v, rfl, hb, hv⟩⟩
  · rintro ⟨rfl, rfl, rfl | ⟨u, v, rfl, hb, hv⟩⟩
    · exact ⟨rfl, [], (List.append_nil _).symm, rfl, .inl rfl⟩
    · exact ⟨rfl, u ++ v, rfl, rfl, .inr ⟨u, v, rfl, hb, hv⟩⟩

/-- The texts a rule's expression matches. -/
theorem isMatch_ruleOf {l : List Char} {b : Regex} {t : List UInt8} :
    (ruleOf l b).IsMatch t ↔
      t = utf8 l ∨ ∃ u v, t = utf8 l ++ (u ++ v) ∧ b.Matches (utf8 l) u v ∧ lineFeed ∉ v := by
  constructor
  · rintro ⟨pre, w, post, rfl, hmatch⟩
    obtain ⟨rfl, rfl, hw⟩ := matches_ruleOf.1 hmatch
    rwa [List.nil_append, List.append_nil]
  · intro h
    exact ⟨[], t, [], by simp, matches_ruleOf.2 ⟨rfl, rfl, h⟩⟩

/-- Anchoring a rule changes nothing: it holds itself to the whole text. -/
theorem isMatch_anchored {l : List Char} {b : Regex} {t : List UInt8} :
    (concat [.textStart, ruleOf l b, .textEnd]).IsMatch t ↔ (ruleOf l b).IsMatch t := by
  constructor
  · rintro ⟨pre, w, post, rfl, hmatch⟩
    obtain ⟨rfl, hrest⟩ := matches_concat_textStart.1 hmatch
    obtain ⟨u, v, rfl, hrule, hend⟩ := matches_concat_cons.1 hrest
    obtain ⟨rfl, rfl⟩ := matches_textEnd.1 (matches_concat_singleton.1 hend)
    exact ⟨[], u, [], by simp, by simpa using hrule⟩
  · rintro ⟨pre, w, post, rfl, hmatch⟩
    obtain ⟨rfl, rfl, -⟩ := matches_ruleOf.1 hmatch
    refine ⟨[], w, [], by simp, matches_concat_textStart.2 ⟨rfl, matches_concat_cons.2 ?_⟩⟩
    exact ⟨w, [], by simp, by simpa using hmatch, matches_concat_singleton.2 ⟨rfl, rfl⟩⟩

/-- **A regex rule admits the texts its expression matches**, anchored or not. -/
theorem admits_rule {pattern l : List Char} {boundary : Token} {b : Regex} {anchored : Bool}
    {t : List UInt8}
    (hlexes : Lexes pattern (.textStart :: (l.map Token.literal ++ tailTokens boundary)))
    (hb : (boundary = .literal '?' ∧ b = .literal '?') ∨
      (boundary = .oneOf ['/', '?'] ∧ b = .oneOf ['/', '?'])) :
    (SozuPathRule.regex (String.ofList pattern)).Admits anchored t ↔ (ruleOf l b).IsMatch t := by
  obtain ⟨hplain, hanchored⟩ := parse_rule hlexes hb
  simp only [SozuPathRule.Admits, String.toList_ofList]
  cases anchored with
  | false => simp [hplain]
  | true => simp [hanchored, isMatch_anchored]

/-! ## The rules of the paths -/

/-- A base, or a text that goes on with a mark and no line feed. -/
def Extends (base : List Char) (marks : List Char) (t : List UInt8) : Prop :=
  t = utf8 base ∨ ∃ m ∈ marks, ∃ rest, t = utf8 (base ++ [m]) ++ rest ∧ lineFeed ∉ rest

theorem extends_iff {base marks : List Char} {t : List UInt8} (ht : lineFeed ∉ t) :
    Extends base marks t ↔ t = utf8 base ∨ ∃ m ∈ marks, utf8 (base ++ [m]) <+: t := by
  refine or_congr_right (exists_congr fun m => and_congr_right fun _ => ?_)
  constructor
  · rintro ⟨rest, rfl, -⟩
    exact List.prefix_append _ _
  · rintro ⟨rest, rfl⟩
    exact ⟨rest, rfl, fun hmem => ht (List.mem_append_right _ hmem)⟩

/-- The start of every rule's pattern. -/
theorem lexes_start (l : List Char) :
    Lexes ('^' :: regexEscape l) (.textStart :: l.map Token.literal) :=
  (lexes_plain (c := '^') (by decide) (by decide) (by decide) rfl).append (lexes_regexEscape l)

/-- An exact path's rule reaches beyond the path over a query only. -/
theorem admits_exact {v : String} {anchored : Bool} {t : List UInt8} :
    (PathMatch.exact v).sozuRule.Admits anchored t ↔ Extends v.toList ['?'] t := by
  have hlexes : Lexes ('^' :: regexEscape v.toList ++ "(?:\\?".toList ++ remainder ++ ")?$".toList)
      (.textStart :: (v.toList.map Token.literal ++ tailTokens (.literal '?'))) := by
    have hall := (lexes_start v.toList).append
      (lexes_groupOpen.append (lexes_query.append lexes_remainder))
    simpa [tailTokens] using hall
  rw [PathMatch.sozuRule, admits_rule hlexes (.inl ⟨rfl, rfl⟩), isMatch_ruleOf]
  refine or_congr_right ⟨?_, ?_⟩
  · rintro ⟨u, rest, rfl, rfl, hrest⟩
    exact ⟨'?', by simp, rest, by simp [utf8_cons], hrest⟩
  · rintro ⟨m, hm, rest, rfl, hrest⟩
    obtain rfl := List.mem_singleton.1 hm
    exact ⟨_, rest, by simp [utf8_cons], rfl, hrest⟩

/-- A prefix's rule reaches beyond its body over an element boundary only. -/
theorem admits_pathPrefix {v : String} {anchored : Bool} {t : List UInt8} :
    (PathMatch.pathPrefix v).sozuRule.Admits anchored t ↔
      if trimEndSlashes v.toList = [] then utf8 ['/'] <+: t
      else Extends (trimEndSlashes v.toList) ['/', '?'] t := by
  rw [PathMatch.sozuRule]
  split_ifs with hroot
  · exact Iff.rfl
  · have hlexes : Lexes ('^' :: regexEscape (trimEndSlashes v.toList) ++ "(?:[/?]".toList ++
        remainder ++ ")?$".toList) (.textStart :: ((trimEndSlashes v.toList).map Token.literal ++
          tailTokens (.oneOf ['/', '?']))) := by
      have hall := (lexes_start (trimEndSlashes v.toList)).append
        (lexes_groupOpen.append (lexes_boundary.append lexes_remainder))
      simpa [tailTokens] using hall
    rw [admits_rule hlexes (.inr ⟨rfl, rfl⟩), isMatch_ruleOf]
    refine or_congr_right ⟨?_, ?_⟩
    · rintro ⟨u, rest, rfl, ⟨c, hc, rfl⟩, hrest⟩
      exact ⟨c, hc, rest, by simp [utf8_cons], hrest⟩
    · rintro ⟨m, hm, rest, rfl, hrest⟩
      exact ⟨_, rest, by simp [utf8_cons], ⟨m, hm, rfl⟩, hrest⟩

/-- **Compiled rules have the Kubernetes semantics**, run as written or anchored, on every
target without a line feed. -/
theorem sozu_rule_admits (anchored : Bool) (t : List UInt8) (ht : lineFeed ∉ t) :
    (∀ p : String, (PathMatch.exact p).sozuRule.Admits anchored t ↔
      t = utf8 p.toList ∨ utf8 (p.toList ++ ['?']) <+: t) ∧
    ∀ p b : String, b.toList = trimEndSlashes p.toList →
      ((PathMatch.pathPrefix p).sozuRule.Admits anchored t ↔
        (b = "" ∧ utf8 ['/'] <+: t) ∨
          (b ≠ "" ∧ (t = utf8 b.toList ∨ utf8 (b.toList ++ ['/']) <+: t ∨
            utf8 (b.toList ++ ['?']) <+: t))) := by
  refine ⟨fun p => ?_, fun p b hb => ?_⟩
  · rw [admits_exact, extends_iff ht]
    simp
  · rw [admits_pathPrefix, ← hb]
    by_cases hroot : b = ""
    · simp [hroot]
    · have hne : b.toList ≠ [] := fun h => hroot (String.toList_inj.1 h)
      rw [if_neg hne, extends_iff ht]
      simp [hroot]

/-- An exact path admits itself with a query that is not UTF-8. -/
theorem sozu_rule_admits_query :
    (PathMatch.exact "/v1").sozuRule.Admits true [47, 118, 49, 63, 255] := by
  refine ((sozu_rule_admits true [47, 118, 49, 63, 255] (by decide)).1 "/v1").2 (.inr ?_)
  exact ⟨[255], by decide⟩

end SozuGateway
