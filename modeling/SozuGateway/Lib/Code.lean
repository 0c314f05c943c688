import Mathlib

/-!
# Words that can be cut off a longer text

* `PrefixFree` — a code no word of which starts another, so that a word can be read
  off the front of a text (`PrefixFree.append_inj`).
* `PrefixFree.terminated` — a list of such words followed by a mark none of them
  starts with can be read off too.
* `append_inj_of_stop` — two words over a class of characters, each followed by
  something outside the class, are cut at the same place.
* `toDigits_injective` — a numeral in a base up to sixteen tells its number.
-/

set_option autoImplicit false

namespace SozuGateway

namespace Lib

variable {α β : Type*}

/-- No word of the code starts another. -/
def PrefixFree (enc : α → List β) : Prop := ∀ a b, enc a <+: enc b → a = b

theorem PrefixFree.append_inj {enc : α → List β} (h : PrefixFree enc) {a b : α} {r s : List β}
    (heq : enc a ++ r = enc b ++ s) : a = b ∧ r = s := by
  have ha : enc a <+: enc b ++ s := ⟨r, heq⟩
  have hab : a = b := by
    rcases List.prefix_or_prefix_of_prefix ha (List.prefix_append (enc b) s) with hab | hba
    · exact h a b hab
    · exact (h b a hba).symm
  subst hab
  exact ⟨rfl, List.append_cancel_left heq⟩

/-- **A list of words and a mark none of them starts with.** -/
theorem PrefixFree.terminated {enc : α → List β} (h : PrefixFree enc) {q : β}
    (hq : ∀ a, ∃ c t, enc a = c :: t ∧ c ≠ q) {l m : List α} {r s : List β}
    (heq : l.flatMap enc ++ q :: r = m.flatMap enc ++ q :: s) : l = m ∧ r = s := by
  induction l generalizing m with
  | nil =>
    cases m with
    | nil => exact ⟨rfl, by simpa using heq⟩
    | cons b m =>
      obtain ⟨c, t, hc, hne⟩ := hq b
      simp only [List.flatMap_nil, List.nil_append, List.flatMap_cons, hc, List.cons_append,
        List.cons.injEq] at heq
      exact absurd heq.1.symm hne
  | cons a l ih =>
    cases m with
    | nil =>
      obtain ⟨c, t, hc, hne⟩ := hq a
      simp only [List.flatMap_nil, List.nil_append, List.flatMap_cons, hc, List.cons_append,
        List.cons.injEq] at heq
      exact absurd heq.1 hne
    | cons b m =>
      simp only [List.flatMap_cons, List.append_assoc] at heq
      obtain ⟨rfl, hrest⟩ := h.append_inj heq
      obtain ⟨rfl, hrs⟩ := ih hrest
      exact ⟨rfl, hrs⟩

/-- The text does not go on with a character of the class. -/
def Stops (p : β → Bool) (r : List β) : Prop := ∀ c ∈ r.head?, p c = false

theorem stops_cons {p : β → Bool} {c : β} {r : List β} (h : p c = false) : Stops p (c :: r) := by
  intro d hd
  obtain rfl : c = d := by simpa using hd
  exact h

theorem stops_nil (p : β → Bool) : Stops p [] := by
  intro d hd
  cases hd

theorem takeWhile_append_of_stop {p : β → Bool} {a r : List β} (ha : ∀ c ∈ a, p c = true)
    (hr : Stops p r) : (a ++ r).takeWhile p = a := by
  rw [List.takeWhile_append_of_pos ha]
  cases r with
  | nil => simp
  | cons c r =>
    have hc : p c = false := hr c rfl
    rw [List.takeWhile_cons_of_neg (by simp [hc]), List.append_nil]

/-- **Two words over a class of characters are cut where the class ends.** -/
theorem append_inj_of_stop {p : β → Bool} {a b r s : List β} (ha : ∀ c ∈ a, p c = true)
    (hb : ∀ c ∈ b, p c = true) (hr : Stops p r) (hs : Stops p s) (heq : a ++ r = b ++ s) :
    a = b ∧ r = s := by
  have hab : a = b := by
    rw [← takeWhile_append_of_stop ha hr, heq, takeWhile_append_of_stop hb hs]
  subst hab
  exact ⟨rfl, List.append_cancel_left heq⟩

/-- **A word stopped by a mark of its own is cut there.** -/
theorem append_mark_inj {q : β} {a b r s : List β} (ha : q ∉ a) (hb : q ∉ b)
    (heq : a ++ q :: r = b ++ q :: s) : a = b ∧ r = s := by
  classical
  have hword : ∀ w : List β, q ∉ w → ∀ c ∈ w, decide (c ≠ q) = true := by
    intro w hw c hc
    exact decide_eq_true fun hmark => hw (hmark ▸ hc)
  have hstop : ∀ rest : List β, Stops (fun c => decide (c ≠ q)) (q :: rest) := fun rest =>
    stops_cons (by simp)
  obtain ⟨hab, hrs⟩ := append_inj_of_stop (hword a ha) (hword b hb) (hstop r) (hstop s) heq
  exact ⟨hab, List.cons_inj_right q |>.1 hrs⟩

/-! ## Numerals -/

/-- The digits of the bases up to sixteen. -/
def digits : List Char := "0123456789abcdef".toList

theorem digitChar_mem {n : ℕ} (h : n < 16) : n.digitChar ∈ digits := by
  revert n
  decide

theorem digitChar_inj {m n : ℕ} (hm : m < 16) (hn : n < 16) (h : m.digitChar = n.digitChar) :
    m = n := by
  have hall : ∀ i < 16, ∀ j < 16, Nat.digitChar i = Nat.digitChar j → i = j := by decide
  exact hall m hm n hn h

section Base

variable {b : ℕ} (hb : 1 < b) (hb' : b ≤ 16)

include hb

theorem length_toDigits_of_base_le {n : ℕ} (h : b ≤ n) : 1 < (Nat.toDigits b n).length := by
  rw [Nat.toDigits_of_base_le hb h, List.length_append]
  have hpos : 0 < (Nat.toDigits b (n / b)).length := Nat.length_toDigits_pos
  simp only [List.length_singleton]
  omega

include hb'

theorem mem_digits_of_mem_toDigits {n : ℕ} {c : Char} (hc : c ∈ Nat.toDigits b n) :
    c ∈ digits := by
  induction n using Nat.strong_induction_on with
  | _ n ih =>
    by_cases hlt : n < b
    · rw [Nat.toDigits_of_lt_base hlt, List.mem_singleton] at hc
      rw [hc]
      exact digitChar_mem (lt_of_lt_of_le hlt hb')
    · rw [Nat.toDigits_of_base_le hb (not_lt.1 hlt), List.mem_append, List.mem_singleton] at hc
      have hpos : 0 < b := lt_trans Nat.zero_lt_one hb
      rcases hc with hc | rfl
      · exact ih (n / b) (Nat.div_lt_self (lt_of_lt_of_le hpos (not_lt.1 hlt)) hb) hc
      · exact digitChar_mem (lt_of_lt_of_le (Nat.mod_lt n hpos) hb')

/-- **A numeral tells its number.** -/
theorem toDigits_injective : Function.Injective (Nat.toDigits b) := by
  intro m n h
  have hpos : 0 < b := lt_trans Nat.zero_lt_one hb
  induction m using Nat.strong_induction_on generalizing n with
  | _ m ih =>
    by_cases hm : m < b
    · -- a numeral of one digit is that of a number below the base
      have hn : n < b := by
        by_contra hn
        have hlength := length_toDigits_of_base_le hb (not_lt.1 hn)
        rw [← h, Nat.toDigits_of_lt_base hm] at hlength
        simp at hlength
      rw [Nat.toDigits_of_lt_base hm, Nat.toDigits_of_lt_base hn, List.singleton_inj] at h
      exact digitChar_inj (lt_of_lt_of_le hm hb') (lt_of_lt_of_le hn hb') h
    · have hn : b ≤ n := by
        by_contra hn
        have hlength := length_toDigits_of_base_le hb (not_lt.1 hm)
        rw [h, Nat.toDigits_of_lt_base (not_le.1 hn)] at hlength
        simp at hlength
      rw [Nat.toDigits_of_base_le hb (not_lt.1 hm), Nat.toDigits_of_base_le hb hn] at h
      obtain ⟨hdiv, hmod⟩ := List.append_inj' h rfl
      have hmod := digitChar_inj (lt_of_lt_of_le (Nat.mod_lt m hpos) hb')
        (lt_of_lt_of_le (Nat.mod_lt n hpos) hb') (List.singleton_inj.1 hmod)
      have hdiv := ih (m / b) (Nat.div_lt_self (lt_of_lt_of_le hpos (not_lt.1 hm)) hb) hdiv
      rw [← Nat.div_add_mod m b, ← Nat.div_add_mod n b, hdiv, hmod]

end Base

theorem toDigits_ten_injective : Function.Injective (Nat.toDigits 10) :=
  toDigits_injective (by decide) (by decide)

/-- A decimal numeral is cut where the digits end. -/
theorem toDigits_append_inj {m n : ℕ} {r s : List Char} (hr : Stops Char.isDigit r)
    (hs : Stops Char.isDigit s) (heq : Nat.toDigits 10 m ++ r = Nat.toDigits 10 n ++ s) :
    m = n ∧ r = s := by
  have hdigits : ∀ k, ∀ c ∈ Nat.toDigits 10 k, c.isDigit = true := fun k c hc =>
    Nat.isDigit_of_mem_toDigits (by decide) (by decide) hc
  obtain ⟨hmn, hrs⟩ := append_inj_of_stop (hdigits m) (hdigits n) hr hs heq
  exact ⟨toDigits_ten_injective hmn, hrs⟩

end Lib

end SozuGateway
