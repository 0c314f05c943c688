import SozuGateway.Agent.Messages

/-!
# The answers of the workers

Sōzu's main process folds the answers of its workers into one text, `<id>: <message>` for each,
joined by `, `.

* `aggregate` — that text.
* `startsFrom` — the scan, from a position on.
* `workerSegments_aggregate` — the scan finds each worker's answer, whatever the answers are as
  long as none spells the start of another.
* `teardown_aggregate` — what the agent concludes of a refused teardown.
-/

set_option autoImplicit false

namespace SozuGateway

namespace Agent

open Lib Sozu

/-! ## The text -/

/-- What one worker answered. -/
structure WorkerAnswer where
  id : ℕ
  message : String

namespace WorkerAnswer

/-- How an answer is spelled. -/
def spelled (answer : WorkerAnswer) : String := natText answer.id ++ ": " ++ answer.message

end WorkerAnswer

/-- The text of the answers. -/
def aggregate (answers : List WorkerAnswer) : String :=
  ", ".intercalate (answers.map WorkerAnswer.spelled)

/-- A message spells the start of an answer: `", <digits>: "`. -/
def SpellsStart (message : String) : Prop :=
  ∃ before digits after, digits ≠ [] ∧ (∀ c ∈ digits, c.isDigit = true) ∧
    message.toList = before ++ ", ".toList ++ digits ++ ": ".toList ++ after

/-! ## The scan -/

section Scan

variable {text : List Char}

/-- An answer starts at a position, and its message so many characters further. -/
def startAt (text : List Char) (i : ℕ) : Option ℕ :=
  if atBoundary text i then workerHeader (text.drop i) else none

/-- The starts from a position on. -/
def startsFrom (text : List Char) (i : ℕ) : List (ℕ × ℕ) := segmentStarts text (text.length - i) i

theorem pos_of_workerHeader {n : ℕ} (h : workerHeader text = some n) : 0 < n := by
  simp only [workerHeader, Option.ite_none_right_eq_some, Option.some.injEq] at h
  omega

/-- More fuel than there is text left changes nothing. -/
theorem segmentStarts_fuel {fuel fuel' i : ℕ} (h : text.length ≤ i + fuel)
    (h' : text.length ≤ i + fuel') : segmentStarts text fuel i = segmentStarts text fuel' i := by
  induction fuel generalizing fuel' i with
  | zero =>
    have hend : text.length ≤ i := by omega
    cases fuel' <;> simp [segmentStarts, hend]
  | succ fuel ih =>
    cases fuel' with
    | zero =>
      have hend : text.length ≤ i := by omega
      simp [segmentStarts, hend]
    | succ fuel' =>
      rw [segmentStarts, segmentStarts]
      split
      · rfl
      · split
        · rename_i n hn
          have hpos : 0 < n := by
            split at hn
            · exact pos_of_workerHeader hn
            · cases hn
          exact congrArg _ (ih (by omega) (by omega))
        · exact ih (by omega) (by omega)

theorem startsFrom_end {i : ℕ} (h : text.length ≤ i) : startsFrom text i = [] := by
  rw [startsFrom, Nat.sub_eq_zero_of_le h, segmentStarts]

theorem startsFrom_of_none {i : ℕ} (h : startAt text i = none) :
    startsFrom text i = startsFrom text (i + 1) := by
  by_cases hend : text.length ≤ i
  · rw [startsFrom_end hend, startsFrom_end (by omega)]
  · rw [startsFrom, show text.length - i = (text.length - (i + 1)) + 1 by omega, segmentStarts,
      if_neg hend]
    rw [startAt] at h
    rw [h]
    rfl

theorem startsFrom_of_some {i n : ℕ} (hi : i < text.length) (h : startAt text i = some n) :
    startsFrom text i = (i, i + n) :: startsFrom text (i + n) := by
  have hpos : 0 < n := by
    rw [startAt] at h
    split at h
    · exact pos_of_workerHeader h
    · cases h
  rw [startsFrom, show text.length - i = (text.length - (i + 1)) + 1 by omega, segmentStarts,
    if_neg (not_le.2 hi)]
  rw [startAt] at h
  rw [h]
  exact congrArg _ (segmentStarts_fuel (by omega) (by omega))

/-- Nothing starts in a stretch the scan goes through. -/
theorem startsFrom_skip {i k : ℕ} (h : ∀ j < k, startAt text (i + j) = none) :
    startsFrom text i = startsFrom text (i + k) := by
  induction k with
  | zero => rfl
  | succ k ih =>
    rw [ih fun j hj => h j (by omega), startsFrom_of_none (h k (by omega))]
    rfl

end Scan

/-! ## The answers in the text -/

/-- The text of some answers, on characters: the digits of each, and its message. -/
def joined : List (List Char × List Char) → List Char
  | [] => []
  | [(digits, message)] => digits ++ ": ".toList ++ message
  | (digits, message) :: answers =>
      digits ++ ": ".toList ++ message ++ ", ".toList ++ joined answers

/-- A message on characters spells the start of an answer. -/
def SpellsStartChars (message : List Char) : Prop :=
  ∃ before digits after, digits ≠ [] ∧ (∀ c ∈ digits, c.isDigit = true) ∧
    message = before ++ ", ".toList ++ digits ++ ": ".toList ++ after

theorem workerHeader_digits {digits rest : List Char} (hne : digits ≠ [])
    (hdigits : ∀ c ∈ digits, c.isDigit = true) :
    workerHeader (digits ++ ": ".toList ++ rest) = some (digits.length + 2) := by
  have htake : (digits ++ ": ".toList ++ rest).takeWhile Char.isDigit = digits := by
    rw [List.append_assoc, List.takeWhile_append_of_pos hdigits]
    simp
  rw [workerHeader, htake, if_pos]
  refine ⟨hne, ?_⟩
  rw [List.append_assoc, List.drop_left]
  exact List.prefix_append _ _

theorem exists_of_workerHeader {text : List Char} {n : ℕ} (h : workerHeader text = some n) :
    ∃ digits rest, digits ≠ [] ∧ (∀ c ∈ digits, c.isDigit = true) ∧
      text = digits ++ ": ".toList ++ rest := by
  simp only [workerHeader, Option.ite_none_right_eq_some] at h
  obtain ⟨⟨hne, rest, hrest⟩, -⟩ := h
  refine ⟨text.takeWhile Char.isDigit, rest, hne, fun c hc => List.mem_takeWhile_imp hc, ?_⟩
  have hsplit : text.takeWhile Char.isDigit ++ text.dropWhile Char.isDigit = text :=
    List.takeWhile_append_dropWhile
  have hdrop : text.drop (text.takeWhile Char.isDigit).length = text.dropWhile Char.isDigit :=
    calc text.drop (text.takeWhile Char.isDigit).length
        = (text.takeWhile Char.isDigit ++ text.dropWhile Char.isDigit).drop
            (text.takeWhile Char.isDigit).length := by rw [hsplit]
      _ = text.dropWhile Char.isDigit := List.drop_left
  rw [hdrop] at hrest
  rw [List.append_assoc]
  exact hsplit.symm.trans (congrArg _ hrest.symm)

theorem spellsStart_iff {message : String} :
    SpellsStart message ↔ ∃ i < message.toList.length,
      (message.toList.drop i).take 2 = ", ".toList ∧
        (workerHeader (message.toList.drop (i + 2))).isSome = true := by
  constructor
  · rintro ⟨before, digits, after, hne, hdigits, hmessage⟩
    have hdrop : message.toList.drop before.length =
        ", ".toList ++ (digits ++ ": ".toList ++ after) := by
      rw [hmessage, List.append_assoc, List.append_assoc, List.append_assoc, List.drop_left,
        List.append_assoc]
    refine ⟨before.length, by rw [hmessage]; simp, ?_, ?_⟩
    · rw [hdrop]
      rfl
    · have hafter : (", ".toList ++ (digits ++ ": ".toList ++ after)).drop 2 =
          digits ++ ": ".toList ++ after := rfl
      rw [← List.drop_drop, hdrop, hafter, workerHeader_digits hne hdigits]
      rfl
  · rintro ⟨i, -, htake, hheader⟩
    obtain ⟨n, hn⟩ := Option.isSome_iff_exists.1 hheader
    obtain ⟨digits, after, hne, hdigits, hdrop⟩ := exists_of_workerHeader hn
    refine ⟨message.toList.take i, digits, after, hne, hdigits, ?_⟩
    rw [List.append_assoc, List.append_assoc, ← List.append_assoc digits, ← hdrop, ← List.drop_drop,
      ← htake, List.append_assoc, List.take_append_drop, List.take_append_drop]

instance (message : String) : Decidable (SpellsStart message) :=
  decidable_of_iff _ spellsStart_iff.symm

/-- **No answer starts inside a message that spells no start**, nor between it and the next
answer. -/
theorem startAt_message {before message after : List Char}
    (hafter : after = [] ∨ ∃ rest, after = ", ".toList ++ rest)
    (hmessage : ¬SpellsStartChars message) {j : ℕ} (hj : j < message.length + 2) :
    startAt (before ++ ": ".toList ++ (message ++ after)) ((before ++ ": ".toList).length + j) =
      none := by
  by_contra hsome
  obtain ⟨n, hn⟩ := Option.ne_none_iff_exists'.1 hsome
  rw [startAt] at hn
  split at hn
  swap
  · cases hn
  rename_i hboundary
  obtain ⟨digits, rest, hne, hdigits, hdrop⟩ := exists_of_workerHeader hn
  rw [List.drop_append, List.drop_eq_nil_of_le (by omega), List.nil_append,
    Nat.add_sub_cancel_left] at hdrop
  simp only [atBoundary, decide_eq_true_eq] at hboundary
  have hlength : (before ++ ": ".toList).length = before.length + 2 := by simp
  obtain ⟨-, htake⟩ := hboundary.resolve_left (by omega)
  match j with
  | 0 =>
    have hcolon : (before ++ ": ".toList ++ (message ++ after)).drop
        ((before ++ ": ".toList).length + 0 - 2) = ": ".toList ++ (message ++ after) := by
      rw [hlength, Nat.add_zero, Nat.add_sub_cancel, List.append_assoc, List.drop_left]
    rw [hcolon] at htake
    simp at htake
  | 1 =>
    have hblank : (before ++ ": ".toList ++ (message ++ after)).drop
        ((before ++ ": ".toList).length + 1 - 2) = ' ' :: (message ++ after) := by
      rw [hlength, show before.length + 2 + 1 - 2 = before.length + 1 by omega, List.append_assoc,
        List.drop_append, List.drop_eq_nil_of_le (by omega)]
      simp
    rw [hblank] at htake
    simp at htake
  | j + 2 =>
    have hcomma : (before ++ ": ".toList ++ (message ++ after)).drop
        ((before ++ ": ".toList).length + (j + 2) - 2) = (message ++ after).drop j := by
      rw [List.drop_append, List.drop_eq_nil_of_le (by omega), List.nil_append]
      congr 1
      omega
    rw [hcomma] at htake
    -- the whole text read at the comma
    have hwhole : message ++ after =
        (message ++ after).take j ++ ", ".toList ++ digits ++ ": ".toList ++ rest := by
      have hsplit := (List.take_append_drop 2 ((message ++ after).drop j)).symm
      rw [htake, List.drop_drop, hdrop] at hsplit
      conv_lhs => rw [← List.take_append_drop j (message ++ after), hsplit]
      simp
    have hshort : ((message ++ after).take j).length < message.length := by
      have := List.length_take_le j (message ++ after)
      omega
    generalize (message ++ after).take j = u at hwhole hshort
    rcases List.append_eq_append_iff.1 hwhole with ⟨w, hw, hrest⟩ | ⟨w, hw, hrest⟩
    · cases w with
      | nil => exact hmessage ⟨u, digits, [], hne, hdigits, by
        rw [List.append_nil, hw, List.append_nil]⟩
      | cons c w =>
        obtain rfl : c = ',' := by
          rcases hafter with rfl | ⟨next, rfl⟩
          · simp at hrest
          · exact (List.cons.inj hrest).1.symm
        -- the separator would be cut by the digits
        have hcut : u ++ ',' :: (' ' :: digits ++ ": ".toList) = message ++ ',' :: w := by
          simpa using hw
        have hmem : ',' ∈ ' ' :: digits ++ ": ".toList := by
          rcases List.append_eq_append_iff.1 hcut with ⟨z, hz, ht⟩ | ⟨z, hz, -⟩
          · cases z with
            | nil =>
              rw [hz, List.append_nil] at hshort
              exact absurd hshort (lt_irrefl _)
            | cons d z =>
              rw [(List.cons.inj ht).2]
              exact List.mem_append_right _ List.mem_cons_self
          · rw [hz, List.length_append] at hshort
            omega
        have hdigit : ',' ∉ digits := fun h => absurd (hdigits ',' h) (by decide)
        simp [hdigit] at hmem
    · exact hmessage ⟨u, digits, w, hne, hdigits, hw⟩

/-- **The scan takes an answer, and goes through its message.** -/
theorem startsFrom_answer {before digits message after : List Char} (hne : digits ≠ [])
    (hdigits : ∀ c ∈ digits, c.isDigit = true) (hmessage : ¬SpellsStartChars message)
    (hbefore : before = [] ∨ ∃ b, before = b ++ ", ".toList)
    (hafter : after = [] ∨ ∃ rest, after = ", ".toList ++ rest) {k : ℕ}
    (hk : k ≤ message.length + 2) :
    startsFrom (before ++ digits ++ ": ".toList ++ (message ++ after)) before.length =
      (before.length, (before ++ digits ++ ": ".toList).length) ::
        startsFrom (before ++ digits ++ ": ".toList ++ (message ++ after))
          ((before ++ digits ++ ": ".toList).length + k) := by
  have hdrop : (before ++ digits ++ ": ".toList ++ (message ++ after)).drop before.length =
      digits ++ ": ".toList ++ (message ++ after) := by
    rw [List.append_assoc, List.append_assoc, List.drop_left, List.append_assoc]
  have hstart : startAt (before ++ digits ++ ": ".toList ++ (message ++ after)) before.length =
      some (digits.length + 2) := by
    have hboundary : atBoundary (before ++ digits ++ ": ".toList ++ (message ++ after))
        before.length = true := by
      rw [atBoundary, decide_eq_true_iff]
      rcases hbefore with rfl | ⟨b, rfl⟩
      · exact .inl rfl
      · refine .inr ⟨by simp, ?_⟩
        rw [List.length_append, show (", ".toList).length = 2 from rfl, Nat.add_sub_cancel]
        simp
    rw [startAt, if_pos hboundary, hdrop]
    exact workerHeader_digits hne hdigits
  rw [startsFrom_of_some (by simp) hstart]
  have hlength : before.length + (digits.length + 2) =
      (before ++ digits ++ ": ".toList).length := by
    simp
  rw [hlength]
  exact congrArg _ (startsFrom_skip fun j hj => startAt_message hafter hmessage (by omega))

/-- **The scan finds each answer.** -/
theorem segments_joined {answers : List (List Char × List Char)} (hne : answers ≠ [])
    (hdigits : ∀ a ∈ answers, a.1 ≠ [] ∧ ∀ c ∈ a.1, c.isDigit = true)
    (hmessages : ∀ a ∈ answers, ¬SpellsStartChars a.2) {before : List Char}
    (hbefore : before = [] ∨ ∃ b, before = b ++ ", ".toList) :
    (∃ n rest, startsFrom (before ++ joined answers) before.length = (before.length, n) :: rest) ∧
      segmentBodies (before ++ joined answers)
          (startsFrom (before ++ joined answers) before.length) =
        answers.map fun a => trimChars a.2 := by
  induction answers generalizing before with
  | nil => exact absurd rfl hne
  | cons a answers ih =>
    obtain ⟨digits, message⟩ := a
    obtain ⟨hdne, hdig⟩ : digits ≠ [] ∧ ∀ c ∈ digits, c.isDigit = true :=
      hdigits (digits, message) List.mem_cons_self
    have hmessage : ¬SpellsStartChars message := hmessages (digits, message) List.mem_cons_self
    cases answers with
    | nil =>
      have htext : before ++ joined [(digits, message)] =
          before ++ digits ++ ": ".toList ++ (message ++ []) := by
        simp [joined]
      rw [htext, startsFrom_answer hdne hdig hmessage hbefore (.inl rfl)
        (Nat.le_add_right message.length 2), startsFrom_end (by simp; omega)]
      refine ⟨⟨_, _, rfl⟩, ?_⟩
      rw [segmentBodies, List.drop_left, List.append_nil]
      rfl
    | cons b answers =>
      have htext : before ++ joined ((digits, message) :: b :: answers) =
          before ++ digits ++ ": ".toList ++
            (message ++ (", ".toList ++ joined (b :: answers))) := by
        simp [joined]
      have hagain : before ++ digits ++ ": ".toList ++
          (message ++ (", ".toList ++ joined (b :: answers))) =
            before ++ digits ++ ": ".toList ++ message ++ ", ".toList ++ joined (b :: answers) := by
        simp
      have hlength : (before ++ digits ++ ": ".toList).length + (message.length + 2) =
          (before ++ digits ++ ": ".toList ++ message ++ ", ".toList).length := by
        simp
        omega
      have hnext : before ++ digits ++ ": ".toList ++ message ++ ", ".toList = [] ∨
          ∃ b, before ++ digits ++ ": ".toList ++ message ++ ", ".toList = b ++ ", ".toList :=
        .inr ⟨_, rfl⟩
      obtain ⟨⟨n, rest, hstarts⟩, hbodies⟩ := ih (List.cons_ne_nil b answers)
        (fun a ha => hdigits a (List.mem_cons_of_mem _ ha))
        (fun a ha => hmessages a (List.mem_cons_of_mem _ ha)) hnext
      rw [htext, startsFrom_answer hdne hdig hmessage hbefore (.inr ⟨_, rfl⟩) (le_refl _), hlength,
        hagain, hstarts]
      refine ⟨⟨_, _, rfl⟩, ?_⟩
      rw [hstarts] at hbodies
      rw [segmentBodies, hbodies, List.map_cons]
      congr 2
      have hcut : (before ++ digits ++ ": ".toList ++ message ++ ", ".toList).length - 2 =
          (before ++ digits ++ ": ".toList ++ message).length := by
        rw [List.length_append, show (", ".toList).length = 2 from rfl, Nat.add_sub_cancel]
      rw [hcut, List.append_assoc _ ", ".toList, List.take_left, List.drop_left]

/-! ## The verdicts -/

theorem toList_spelled (answer : WorkerAnswer) :
    answer.spelled.toList = Nat.toDigits 10 answer.id ++ ": ".toList ++ answer.message.toList := by
  rw [WorkerAnswer.spelled, String.toList_append, String.toList_append, natText,
    String.toList_ofList]

/-- The text of the answers, on characters. -/
theorem toList_aggregate (answers : List WorkerAnswer) :
    (aggregate answers).toList =
      joined (answers.map fun a => (Nat.toDigits 10 a.id, a.message.toList)) := by
  rw [aggregate, String.toList_intercalate]
  induction answers with
  | nil => rfl
  | cons a answers ih =>
    cases answers with
    | nil => simp [joined, toList_spelled]
    | cons b answers =>
      simp only [List.map_cons] at ih ⊢
      rw [List.intercalate_cons_cons, ih]
      simp [joined, toList_spelled]

/-- **The scan of an aggregate gives the trimmed messages, in order.** -/
theorem workerSegments_aggregate {answers : List WorkerAnswer} (hne : answers ≠ [])
    (hmessages : ∀ a ∈ answers, ¬SpellsStart a.message) :
    workerSegments (aggregate answers) = answers.map fun a => trimText a.message := by
  have hdigits : ∀ x ∈ answers.map fun a => (Nat.toDigits 10 a.id, a.message.toList),
      x.1 ≠ [] ∧ ∀ c ∈ x.1, c.isDigit = true := by
    intro x hx
    obtain ⟨a, -, rfl⟩ := List.mem_map.1 hx
    exact ⟨Nat.toDigits_ne_nil, fun c hc => Nat.isDigit_of_mem_toDigits (by decide) (by decide) hc⟩
  have hchars : ∀ x ∈ answers.map fun a => (Nat.toDigits 10 a.id, a.message.toList),
      ¬SpellsStartChars x.2 := by
    intro x hx
    obtain ⟨a, ha, rfl⟩ := List.mem_map.1 hx
    exact hmessages a ha
  obtain ⟨⟨n, rest, hstarts⟩, hbodies⟩ :=
    segments_joined (by simpa using hne) hdigits hchars (.inl rfl)
  rw [List.nil_append, List.length_nil, ← toList_aggregate] at hstarts hbodies
  rw [hstarts, List.map_map] at hbodies
  rw [startsFrom, Nat.sub_zero] at hstarts
  rw [workerSegments, hstarts]
  show (segmentBodies _ _).map String.ofList = _
  rw [hbodies, List.map_map]
  rfl

/-- A worker that answers `OK` does not say that the object is gone. -/
theorem saysGone_eq_false_of_isOk {request : RequestType} {segment : String}
    (h : isOk segment = true) : saysGone request segment = false := by
  refine saysGone_eq_false ?_
  rw [show toAsciiLowercase segment = "ok" from of_decide_eq_true h]
  decide

/-- A digit is its own lower case. -/
theorem toLower_of_isDigit {c : Char} (hc : c.isDigit = true) : c.toLower = c := by
  refine Char.toLower_eq_of_not_isUpper fun hupper => ?_
  simp only [Char.isDigit, Char.isUpper, Bool.and_eq_true, decide_eq_true_eq, ge_iff_le,
    UInt32.le_iff_toNat_le] at hc hupper
  exact absurd (hupper.1.trans hc.2) (by decide)

/-- An aggregate starts with the id of a worker. -/
theorem startsWithText_aggregate {answers : List WorkerAnswer} (hne : answers ≠ []) :
    startsWithText (toAsciiLowercase (aggregate answers)) mainProcessRefusal = false := by
  obtain ⟨a, answers, rfl⟩ := List.exists_cons_of_ne_nil hne
  obtain ⟨c, digits, hdigits⟩ := List.exists_cons_of_ne_nil
    (Nat.toDigits_ne_nil (n := a.id) (b := 10))
  have hc : c.isDigit = true := Nat.isDigit_of_mem_toDigits (by decide) (by decide)
    (hdigits ▸ List.mem_cons_self)
  obtain ⟨rest, htext⟩ : ∃ rest, (aggregate (a :: answers)).toList = c :: rest := by
    rw [toList_aggregate, List.map_cons, hdigits]
    cases answers with
    | nil => exact ⟨_, rfl⟩
    | cons b answers => exact ⟨_, rfl⟩
  rw [← Bool.not_eq_true, startsWithText_iff]
  rintro ⟨after, h⟩
  rw [toAsciiLowercase, String.toList_ofList, htext, mainProcessRefusal] at h
  have hlower : c.toLower = 'c' := (List.cons.inj h).1
  rw [toLower_of_isDigit hc] at hlower
  rw [hlower] at hc
  exact absurd hc (by decide)

/-- **The teardown verdicts are per worker.**  They read off the aggregate what each worker
answered. -/
theorem teardown_aggregate {request : RequestType} (hteardown : request.isTeardown = true)
    {answers : List WorkerAnswer} (hne : answers ≠ [])
    (hmessages : ∀ a ∈ answers, ¬SpellsStart a.message) :
    workerSegments (aggregate answers) = (answers.map fun a => trimText a.message) ∧
      (isAlreadyGone request (aggregate answers) = true ↔
        (∀ a ∈ answers, isOk (trimText a.message) = true ∨
          saysGone request (trimText a.message) = true) ∧
        ∃ a ∈ answers, saysGone request (trimText a.message) = true) ∧
      (goneFromMainProcess (aggregate answers) = true ↔
        ∃ a ∈ answers, isOk (trimText a.message) = true) := by
  have hsegments := workerSegments_aggregate hne hmessages
  have hgone : ∀ segment,
      (!isOk segment && saysGone request segment) = saysGone request segment := by
    intro segment
    cases hok : isOk segment with
    | false => rfl
    | true => rw [saysGone_eq_false_of_isOk hok, Bool.and_false]
  refine ⟨hsegments, ?_, ?_⟩
  · simp only [isAlreadyGone, hsegments, hteardown, hgone, Bool.true_and, Bool.and_eq_true,
      List.all_eq_true, List.forall_mem_map, Bool.or_eq_true, List.any_map, List.any_eq_true,
      Function.comp_apply]
  · simp only [goneFromMainProcess, hsegments, startsWithText_aggregate hne, Bool.false_or,
      List.any_map, List.any_eq_true, Function.comp_apply]

/-- Two workers, one of whose messages holds commas, digits and an address. -/
def mixedAnswers : List WorkerAnswer :=
  [⟨1, "Found no listener with address 10.0.0.1:443, 12 énoncés: none"⟩, ⟨0, "OK"⟩]

/-- One worker lost the listener of a certificate, the other removed it. -/
theorem teardown_aggregate_mixedAnswers :
    workerSegments (aggregate mixedAnswers) = (mixedAnswers.map fun a => trimText a.message) ∧
      isAlreadyGone (.removeCertificate ⟨⟨.v4 ⟨10, 0, 0, 1⟩, 443⟩, "c0ffee"⟩)
        (aggregate mixedAnswers) = true ∧
      goneFromMainProcess (aggregate mixedAnswers) = true := by
  have hmessages : ∀ a ∈ mixedAnswers, ¬SpellsStart a.message := by decide +kernel
  have hteardown :
      (RequestType.removeCertificate ⟨⟨.v4 ⟨10, 0, 0, 1⟩, 443⟩, "c0ffee"⟩).isTeardown = true := rfl
  obtain ⟨hsegments, hgone, hmain⟩ := teardown_aggregate hteardown (by decide) hmessages
  exact ⟨hsegments, hgone.2 (by decide +kernel), hmain.2 (by decide +kernel)⟩

end Agent

end SozuGateway
