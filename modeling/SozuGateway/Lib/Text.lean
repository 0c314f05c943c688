import Mathlib

/-!
# Texts

The functions of `str` the repository uses, on the characters of a string.

* `containsText`, `startsWithText` — substring tests.
* `trimText` — a text without the white space around it.
* `stripStart`, `stripEnd` — a text without a given start or ending.
* `parseUnsigned` — reading an unsigned integer.
-/

set_option autoImplicit false

namespace SozuGateway
namespace Lib

/-- `str::contains`. -/
def containsText (text needle : String) : Bool := needle.toList <:+: text.toList

/-- `str::starts_with`. -/
def startsWithText (text start : String) : Bool := start.toList <+: text.toList

/-- `char::is_whitespace`: the Unicode property `White_Space`. -/
def isWhitespace (c : Char) : Bool :=
  (9 ≤ c.toNat ∧ c.toNat ≤ 13) ∨ (0x2000 ≤ c.toNat ∧ c.toNat ≤ 0x200A) ∨
    c.toNat ∈ [0x20, 0x85, 0xA0, 0x1680, 0x2028, 0x2029, 0x202F, 0x205F, 0x3000]

/-- `str::trim`, on characters. -/
def trimChars (text : List Char) : List Char :=
  ((text.dropWhile isWhitespace).reverse.dropWhile isWhitespace).reverse

/-- `str::trim`. -/
def trimText (text : String) : String := String.ofList (trimChars text.toList)

/-- `str::strip_prefix`. -/
def stripStart (text start : String) : Option String :=
  (start.toList.isPrefixOf? text.toList).map String.ofList

/-- `str::strip_suffix`. -/
def stripEnd (text ending : String) : Option String :=
  (ending.toList.isSuffixOf? text.toList).map String.ofList

/-- A number in decimal. -/
def natText (n : ℕ) : String := String.ofList (Nat.toDigits 10 n)

/-- `str::split_whitespace`, joined by single blanks. -/
def joinWords (text : String) : String :=
  String.ofList ([' '].intercalate
    ((text.toList.splitOnP isWhitespace).filter fun word => !word.isEmpty))

/-- Digits without a sign, below a bound. -/
def parseDigits (bound : ℕ) (digits : List Char) : Option ℕ :=
  if digits ≠ [] ∧ digits.all Char.isDigit then
    let n := digits.foldl (fun n c => 10 * n + (c.toNat - 48)) 0
    if n < bound then some n else none
  else none

/-- `str::parse` of an unsigned integer type with the given bound. -/
def parseUnsigned (bound : ℕ) (text : String) : Option ℕ :=
  match text.toList with
  | '+' :: digits => parseDigits bound digits
  | digits => parseDigits bound digits

theorem startsWithText_iff {text start : String} :
    startsWithText text start = true ↔ ∃ after, text.toList = start.toList ++ after := by
  unfold startsWithText
  rw [decide_eq_true_iff]
  constructor
  · rintro ⟨after, h⟩
    exact ⟨after, h.symm⟩
  · rintro ⟨after, h⟩
    exact ⟨after, h.symm⟩

theorem stripStart_eq_some {text start rest : String} :
    stripStart text start = some rest ↔ text = start ++ rest := by
  unfold stripStart
  rw [Option.map_eq_some_iff]
  constructor
  · rintro ⟨cs, hcs, rfl⟩
    rw [List.isPrefixOf?_eq_some_iff_append_eq] at hcs
    apply String.toList_inj.1
    rw [String.toList_append, String.toList_ofList, hcs]
  · rintro rfl
    refine ⟨rest.toList, ?_, String.ofList_toList⟩
    rw [List.isPrefixOf?_eq_some_iff_append_eq, String.toList_append]

theorem stripEnd_eq_some {text ending rest : String} :
    stripEnd text ending = some rest ↔ text = rest ++ ending := by
  unfold stripEnd
  rw [Option.map_eq_some_iff]
  constructor
  · rintro ⟨cs, hcs, rfl⟩
    rw [List.isSuffixOf?_eq_some_iff_append_eq] at hcs
    apply String.toList_inj.1
    rw [String.toList_append, String.toList_ofList, hcs]
  · rintro rfl
    refine ⟨rest.toList, ?_, String.ofList_toList⟩
    rw [List.isSuffixOf?_eq_some_iff_append_eq, String.toList_append]

end Lib
end SozuGateway
