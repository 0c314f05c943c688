import SozuGateway.Lib.Utf8

/-!
# Regular expressions over bytes

The fragment of a byte-oriented regex flavour with literals, escapes, classes of listed
characters, `.`, the two text anchors, non-capturing groups, a switch for Unicode, `?` and
`*`.

* `Regex`, `Regex.Matches` — the expressions, and what a span of a text matches between
  what comes before and after it.
* `Regex.IsMatch` — some span of a text matches.
* `matches_concat_literals`, `matches_star_dot` — how a concatenation reads its literals,
  and how a repeated byte reads the rest.
* `tokens`, `parse` — the syntax, from characters over tokens to expressions; `Lexes` — a
  stretch of a pattern that is read alike wherever it stands.
-/

set_option autoImplicit false

namespace SozuGateway

namespace Lib

/-- The byte `.` does not match. -/
def lineFeed : UInt8 := 10

/-- A regular expression. -/
inductive Regex where
  | empty
  | literal (c : Char)
  /-- A class of listed characters. -/
  | oneOf (cs : List Char)
  /-- Any character but a line feed; any byte but it when Unicode is off. -/
  | dot (unicode : Bool)
  /-- The start of the text. -/
  | textStart
  /-- The end of the text. -/
  | textEnd
  | seq (r s : Regex)
  | optional (r : Regex)
  | star (r : Regex)
  deriving DecidableEq, Repr

namespace Regex

/-! ## What is matched -/

/-- A set of spans of texts: what comes before, the span, what comes after. -/
abbrev Spans := List UInt8 → List UInt8 → List UInt8 → Prop

/-- Spans of a set, one after the other. -/
inductive Repeated (lang : Spans) : Spans where
  | done {pre post : List UInt8} : Repeated lang pre [] post
  | more {pre u v post : List UInt8} : lang pre u (v ++ post) →
      Repeated lang (pre ++ u) v post → Repeated lang pre (u ++ v) post

/-- The spans an expression matches. -/
def Matches : Regex → Spans
  | .empty, _, w, _ => w = []
  | .literal c, _, w, _ => w = String.utf8EncodeChar c
  | .oneOf cs, _, w, _ => ∃ c ∈ cs, w = String.utf8EncodeChar c
  | .dot true, _, w, _ => ∃ c, c ≠ '\n' ∧ w = String.utf8EncodeChar c
  | .dot false, _, w, _ => ∃ b, b ≠ lineFeed ∧ w = [b]
  | .textStart, pre, w, _ => w = [] ∧ pre = []
  | .textEnd, _, w, post => w = [] ∧ post = []
  | .seq r s, pre, w, post =>
      ∃ u v, w = u ++ v ∧ Matches r pre u (v ++ post) ∧ Matches s (pre ++ u) v post
  | .optional r, pre, w, post => w = [] ∨ Matches r pre w post
  | .star r, pre, w, post => Repeated (Matches r) pre w post

/-- Some span of the text matches. -/
def IsMatch (r : Regex) (text : List UInt8) : Prop :=
  ∃ pre w post, text = pre ++ (w ++ post) ∧ r.Matches pre w post

/-- One expression after the other. -/
def concat (rs : List Regex) : Regex := rs.foldr seq empty

section Rules

variable {r : Regex} {rs : List Regex} {pre w post : List UInt8}

theorem matches_concat_nil : (concat []).Matches pre w post ↔ w = [] := Iff.rfl

theorem matches_concat_cons :
    (concat (r :: rs)).Matches pre w post ↔
      ∃ u v, w = u ++ v ∧ r.Matches pre u (v ++ post) ∧ (concat rs).Matches (pre ++ u) v post :=
  Iff.rfl

/-- A concatenation of one. -/
theorem matches_concat_singleton :
    (concat [r]).Matches pre w post ↔ r.Matches pre w post := by
  rw [matches_concat_cons]
  constructor
  · rintro ⟨u, v, rfl, hr, hv⟩
    obtain rfl := matches_concat_nil.1 hv
    simpa using hr
  · intro hr
    exact ⟨w, [], by simp, by simpa using hr, rfl⟩

/-- An anchor at the start holds the span to it. -/
theorem matches_concat_textStart :
    (concat (textStart :: rs)).Matches pre w post ↔ pre = [] ∧ (concat rs).Matches [] w post := by
  rw [matches_concat_cons]
  constructor
  · rintro ⟨u, v, rfl, ⟨rfl, rfl⟩, hv⟩
    exact ⟨rfl, hv⟩
  · rintro ⟨rfl, hw⟩
    exact ⟨[], w, rfl, ⟨rfl, rfl⟩, hw⟩

/-- An anchor at the end holds the span to it. -/
theorem matches_textEnd : textEnd.Matches pre w post ↔ w = [] ∧ post = [] := Iff.rfl

/-- **A concatenation reads its literals first.** -/
theorem matches_concat_literals {l : List Char} :
    (concat (l.map literal ++ rs)).Matches pre w post ↔
      ∃ v, w = utf8 l ++ v ∧ (concat rs).Matches (pre ++ utf8 l) v post := by
  induction l generalizing pre w with
  | nil => simp
  | cons c l ih =>
    rw [List.map_cons, List.cons_append, matches_concat_cons]
    constructor
    · rintro ⟨u, v, rfl, rfl, hv⟩
      obtain ⟨v', rfl, hv'⟩ := ih.1 hv
      exact ⟨v', by rw [utf8_cons, List.append_assoc], by rwa [utf8_cons, ← List.append_assoc]⟩
    · rintro ⟨v, rfl, hv⟩
      refine ⟨_, utf8 l ++ v, by rw [utf8_cons, List.append_assoc], rfl, ih.2 ⟨v, rfl, ?_⟩⟩
      rwa [utf8_cons, ← List.append_assoc] at hv

/-- **A repeated byte reads everything up to a line feed.** -/
theorem matches_star_dot : (star (dot false)).Matches pre w post ↔ lineFeed ∉ w := by
  constructor
  · intro h
    have hrepeated : Repeated (Matches (dot false)) pre w post := h
    induction hrepeated with
    | done => exact List.not_mem_nil
    | more hu _ ih =>
      obtain ⟨b, hb, rfl⟩ := hu
      intro hmem
      rcases List.mem_cons.1 hmem with heq | hmem
      · exact hb heq.symm
      · exact ih (by assumption) hmem
  · intro h
    show Repeated (Matches (dot false)) pre w post
    induction w generalizing pre with
    | nil => exact .done
    | cons b w ih =>
      refine Repeated.more (u := [b]) ⟨b, ?_, rfl⟩ (ih fun hmem => h (List.mem_cons_of_mem _ hmem))
      rintro rfl
      exact h List.mem_cons_self

end Rules

/-! ## The syntax -/

/-- What a pattern is made of. -/
inductive Token where
  | literal (c : Char)
  | oneOf (cs : List Char)
  | dot
  | textStart
  | textEnd
  | groupOpen (unicode : Bool)
  | groupClose
  | optional
  | star
  deriving DecidableEq, Repr

/-- The characters a backslash makes literal. -/
def metacharacters : List Char :=
  ['\\', '.', '+', '*', '?', '(', ')', '|', '[', ']', '\x7b', '\x7d', '^', '$', '#', '&', '-', '~']

/-- What a character after a backslash stands for. -/
def escaped (c : Char) : Option Token :=
  if c ∈ metacharacters then some (.literal c)
  else if c = 'A' then some .textStart
  else if c = 'z' then some .textEnd
  else none

/-- What a character on its own stands for, outside the tokens of several. -/
def plain (c : Char) : Option Token :=
  if c = '^' then some .textStart
  else if c = '$' then some .textEnd
  else if c = '.' then some .dot
  else if c = ')' then some .groupClose
  else if c = '?' then some .optional
  else if c = '*' then some .star
  -- alternation, other repetitions, capturing groups: not in the fragment
  else if c ∈ "\\([+|\x7b".toList then none
  else some (.literal c)

/-- The characters a class may list as they are. -/
def isListed (c : Char) : Bool := c ∉ "\\[]^-&~".toList

/-- The tokens of a pattern, the first argument listing the characters of the class that
is open. -/
def tokens : Option (List Char) → List Char → Option (List Token)
  | none, [] => some []
  | some _, [] => none
  | some cs, ']' :: rest =>
      if cs = [] then none else (tokens none rest).map (.oneOf cs.reverse :: ·)
  | some cs, c :: rest => if isListed c then tokens (some (c :: cs)) rest else none
  | none, '\\' :: c :: rest =>
      match escaped c with
      | none => none
      | some t => (tokens none rest).map (t :: ·)
  | none, '(' :: '?' :: ':' :: rest => (tokens none rest).map (.groupOpen true :: ·)
  | none, '(' :: '?' :: '-' :: 'u' :: ':' :: rest => (tokens none rest).map (.groupOpen false :: ·)
  | none, '[' :: rest => tokens (some []) rest
  | none, c :: rest =>
      match plain c with
      | none => none
      | some t => (tokens none rest).map (t :: ·)

/-- A group that is open: whether Unicode is on around it, and what came before it, last
first. -/
abbrev Frame := Bool × List Regex

/-- The expression of a list of tokens, read within open groups. -/
def assemble : List Frame → Bool → List Regex → List Token → Option Regex
  | [], _, items, [] => some (concat items.reverse)
  | _ :: _, _, _, [] => none
  | frames, u, items, .literal c :: rest => assemble frames u (.literal c :: items) rest
  | frames, u, items, .oneOf cs :: rest => assemble frames u (.oneOf cs :: items) rest
  | frames, u, items, .dot :: rest => assemble frames u (.dot u :: items) rest
  | frames, u, items, .textStart :: rest => assemble frames u (.textStart :: items) rest
  | frames, u, items, .textEnd :: rest => assemble frames u (.textEnd :: items) rest
  | frames, u, items, .groupOpen unicode :: rest =>
      assemble ((u, items) :: frames) (u && unicode) [] rest
  | (u, before) :: frames, _, items, .groupClose :: rest =>
      assemble frames u (concat items.reverse :: before) rest
  | [], _, _, .groupClose :: _ => none
  | frames, u, r :: items, .optional :: rest => assemble frames u (.optional r :: items) rest
  | frames, u, r :: items, .star :: rest => assemble frames u (.star r :: items) rest
  | _, _, [], .optional :: _ => none
  | _, _, [], .star :: _ => none

/-- The expression a pattern denotes. -/
def parse (pattern : List Char) : Option Regex :=
  (tokens none pattern).bind (assemble [] true [])

example : parse "^a(?:[/?](?-u:.*))?$".toList =
    some (concat [textStart, literal 'a',
      optional (concat [oneOf ['/', '?'], concat [star (dot false)]]), textEnd]) := by
  decide

section Syntax

/-- A stretch of a pattern, and the tokens it is read as wherever it stands. -/
def Lexes (word : List Char) (ts : List Token) : Prop :=
  ∀ rest, tokens none (word ++ rest) = (tokens none rest).map (ts ++ ·)

variable {word word' : List Char} {ts ts' : List Token}

theorem Lexes.nil : Lexes [] [] := fun rest => by simp

theorem Lexes.append (h : Lexes word ts) (h' : Lexes word' ts') :
    Lexes (word ++ word') (ts ++ ts') := by
  intro rest
  rw [List.append_assoc, h, h', Option.map_map]
  congr 1
  funext us
  simp

/-- **Stretches read one by one.** -/
theorem Lexes.flatMap {α : Type*} {spell : α → List Char} {read : α → Token}
    (h : ∀ a, Lexes (spell a) [read a]) (l : List α) : Lexes (l.flatMap spell) (l.map read) := by
  induction l with
  | nil => exact Lexes.nil
  | cons a l ih => exact (h a).append ih

theorem lexes_escaped {c : Char} {t : Token} (h : escaped c = some t) : Lexes ['\\', c] [t] := by
  intro rest
  show tokens none ('\\' :: c :: rest) = _
  rw [tokens, h]
  rfl

/-- A character that starts no longer token stands for itself. -/
theorem lexes_plain {c : Char} {t : Token} (hbackslash : c ≠ '\\') (hgroup : c ≠ '(')
    (hclass : c ≠ '[') (h : plain c = some t) : Lexes [c] [t] := by
  intro rest
  show tokens none (c :: rest) = _
  rw [tokens, h]
  · rfl
  all_goals grind

theorem parse_of_lexes (h : Lexes word ts) : parse word = assemble [] true [] ts := by
  have hword := h []
  rw [List.append_nil] at hword
  rw [parse, hword]
  simp [tokens]

/-- Literals are items of their own. -/
theorem assemble_literals {frames : List Frame} {u : Bool} {items : List Regex} {l : List Char} :
    assemble frames u items (l.map Token.literal ++ ts) =
      assemble frames u ((l.map Regex.literal).reverse ++ items) ts := by
  induction l generalizing items with
  | nil => rfl
  | cons c l ih =>
    rw [List.map_cons, List.cons_append, assemble, ih, List.map_cons, List.reverse_cons,
      List.append_assoc, List.singleton_append]

end Syntax

end Regex

end Lib

end SozuGateway
