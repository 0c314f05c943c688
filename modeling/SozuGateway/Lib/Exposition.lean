import SozuGateway.Lib.Code

/-!
# The Prometheus text format

How a text exposition is read, and when a scrape takes it.

* `read` — the lines of a text: the types of its families and its samples.
* `readValue` — the value of a label up to its quote, with its escapes undone.
* `read_append` — a text is read line by line.
* `Valid` — no sample is there twice, and each belongs to one family.
-/

set_option autoImplicit false

namespace SozuGateway

namespace Lib

namespace Exposition

/-- The type of a family. -/
inductive MetricType where
  | gauge
  | counter
  | histogram
  | summary
  deriving DecidableEq, Repr

/-- The word for a type. -/
def MetricType.word : MetricType → List Char
  | .gauge => ['g', 'a', 'u', 'g', 'e']
  | .counter => ['c', 'o', 'u', 'n', 't', 'e', 'r']
  | .histogram => ['h', 'i', 's', 't', 'o', 'g', 'r', 'a', 'm']
  | .summary => ['s', 'u', 'm', 'm', 'a', 'r', 'y']

/-- A sample, with the values of its labels as they are before the escape. -/
structure Sample where
  name : String
  labels : List (String × String)
  value : String
  deriving DecidableEq, Repr

/-- What a line says. -/
inductive Line where
  | comment
  | type (family : String) (mtype : MetricType)
  | sample (s : Sample)
  deriving DecidableEq, Repr

/-! ## Reading -/

/-- The characters of a name. -/
def isNameChar (c : Char) : Bool := c.isAlphanum || c = '_'

/-- The character that an escape stands for. -/
def unescapeChar (c : Char) : Option Char :=
  if c = 'n' then some '\n' else if c = '\\' ∨ c = '"' then some c else none

/-- The value of a label up to its closing quote, and what follows; after a backslash or not. -/
def readValue : Bool → List Char → Option (List Char × List Char)
  | _, [] => none
  | true, c :: text =>
      (unescapeChar c).bind fun d => (readValue false text).map fun r => (d :: r.1, r.2)
  | false, c :: text =>
      if c = '"' then some ([], text)
      else if c = '\\' then readValue true text
      else (readValue false text).map fun r => (c :: r.1, r.2)

/-- A value without its escapes. -/
def unescape (text : List Char) : Option (List Char) :=
  match readValue false (text ++ ['"']) with
  | some (value, []) => some value
  | _ => none

/-- The labels of a sample up to the closing brace, and what follows. -/
def readLabels : ℕ → List Char → Option (List (String × String) × List Char)
  | 0, _ => none
  | n + 1, text =>
      match text.dropWhile isNameChar with
      | '=' :: '"' :: rest =>
          match readValue false rest with
          | some (value, c :: rest) =>
              let label := (String.ofList (text.takeWhile isNameChar), String.ofList value)
              if c = ',' then (readLabels n rest).map fun r => (label :: r.1, r.2)
              else if c = '\x7d' then some ([label], rest)
              else none
          | _ => none
      | _ => none

/-- A sample line. -/
def readSample (line : List Char) : Option Sample :=
  let name := String.ofList (line.takeWhile isNameChar)
  match line.dropWhile isNameChar with
  | ' ' :: value => some ⟨name, [], String.ofList value⟩
  | '\x7b' :: rest =>
      match readLabels rest.length rest with
      | some (labels, ' ' :: value) => some ⟨name, labels, String.ofList value⟩
      | _ => none
  | _ => none

/-- What the line of a type starts with. -/
def typeMark : List Char := ['#', ' ', 'T', 'Y', 'P', 'E', ' ']

/-- The type a word is for. -/
def readType (word : List Char) : Option MetricType :=
  [MetricType.gauge, .counter, .histogram, .summary].find? fun mtype => mtype.word = word

/-- A line. -/
def readLine (line : List Char) : Option Line :=
  if typeMark <+: line then
    let rest := line.drop typeMark.length
    match rest.dropWhile isNameChar with
    | ' ' :: word =>
        (readType word).map (.type (String.ofList (rest.takeWhile isNameChar)))
    | _ => none
  else if line.head? = some '#' then some .comment
  else (readSample line).map .sample

/-- The lines of a text. -/
def cutLines : List Char → List (List Char)
  | [] => []
  | c :: text =>
      if c = '\n' then [] :: cutLines text
      else match cutLines text with
        | [] => [[c]]
        | line :: lines => (c :: line) :: lines

/-- An exposition. -/
def read (text : List Char) : Option (List Line) := (cutLines text).mapM readLine

theorem cutLines_append {line : List Char} (h : '\n' ∉ line) (text : List Char) :
    cutLines (line ++ '\n' :: text) = line :: cutLines text := by
  induction line with
  | nil => simp [cutLines]
  | cons c line ih =>
    have hc : c ≠ '\n' := fun hc => h (hc ▸ List.mem_cons_self)
    rw [List.cons_append, cutLines, if_neg hc, ih fun hmem => h (List.mem_cons_of_mem _ hmem)]

/-- A text is read line by line. -/
theorem read_append {line : List Char} {l : Line} (h : '\n' ∉ line) (hline : readLine line = some l)
    {text : List Char} {lines : List Line} (htext : read text = some lines) :
    read (line ++ '\n' :: text) = some (l :: lines) := by
  rw [read] at htext ⊢
  rw [cutLines_append h, List.mapM_cons, hline, htext]
  rfl

/-- A word of name characters is read off the front of a text. -/
theorem takeWhile_name {name : List Char} (h : ∀ c ∈ name, isNameChar c = true) {c : Char}
    (hc : isNameChar c = false) (text : List Char) :
    (name ++ c :: text).takeWhile isNameChar = name ∧
      (name ++ c :: text).dropWhile isNameChar = c :: text := by
  refine ⟨takeWhile_append_of_stop h (stops_cons hc), ?_⟩
  rw [List.dropWhile_append_of_pos h, List.dropWhile_cons_of_neg (by simp [hc])]

/-- The type of a word. -/
theorem readType_word (mtype : MetricType) : readType mtype.word = some mtype := by
  cases mtype <;> decide

/-- The line of a type. -/
theorem readLine_type {family : List Char} (h : ∀ c ∈ family, isNameChar c = true)
    (mtype : MetricType) :
    readLine (typeMark ++ (family ++ ' ' :: mtype.word)) =
      some (.type (String.ofList family) mtype) := by
  obtain ⟨htake, hdrop⟩ := takeWhile_name h (c := ' ') (by decide) mtype.word
  rw [readLine, if_pos (List.prefix_append _ _), List.drop_left]
  simp only [htake, hdrop, readType_word, Option.map_some]

/-- Other lines that start with a hash are comments. -/
theorem readLine_comment {line : List Char} (h : ¬typeMark <+: '#' :: line) :
    readLine ('#' :: line) = some .comment := by
  rw [readLine, if_neg h, if_pos (by rfl)]

/-- The line of a sample. -/
theorem readLine_sample {line : List Char} {s : Sample} (h : line.head? ≠ some '#')
    (hs : readSample line = some s) : readLine line = some (.sample s) := by
  have hmark : ¬typeMark <+: line := by
    rintro ⟨rest, rfl⟩
    exact h rfl
  rw [readLine, if_neg hmark, if_neg h, hs]
  rfl

/-! ## What a scrape takes -/

/-- The families of a text. -/
def families (lines : List Line) : List (String × MetricType) :=
  lines.filterMap fun
    | .type family mtype => some (family, mtype)
    | _ => none

/-- The samples of a text. -/
def samples (lines : List Line) : List Sample :=
  lines.filterMap fun
    | .sample s => some s
    | _ => none

/-- What the samples of a histogram or of a summary append to its name. -/
def suffixes : List String := ["_bucket", "_sum", "_count"]

/-- A sample name is that of a family, or of a part of a histogram or of a summary. -/
def Belongs (name : String) (family : String × MetricType) : Prop :=
  name = family.1 ∨
    (family.2 = .histogram ∨ family.2 = .summary) ∧ ∃ suffix ∈ suffixes, name = family.1 ++ suffix

instance (name : String) (family : String × MetricType) : Decidable (Belongs name family) :=
  inferInstanceAs (Decidable (_ ∨ _))

/-- The name of a sample and the set of its labels. -/
def Sample.series (s : Sample) : String × Finset (String × String) := (s.name, s.labels.toFinset)

/-- No two samples are of one series, and each belongs to one family. -/
structure Valid (lines : List Line) : Prop where
  distinct : ((samples lines).map Sample.series).Nodup
  one : ∀ s ∈ samples lines, (families lines).countP (Belongs s.name ·) = 1

end Exposition

end Lib

end SozuGateway
