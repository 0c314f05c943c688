import SozuGateway.Lib.Code

/-!
# Text as bytes

* `utf8` — the bytes of a text; `utf8Char_prefixFree` — no character's bytes start
  another's, so a text can be read back (`utf8_injective`).
* `prefix_of_utf8_prefix` — a text whose bytes start another's is its prefix.
* `toNat_of_mem_utf8Char` — a byte below 128 stands for a character of its own.
* `length_utf8` — the bytes of a string are as many as it says.
-/

set_option autoImplicit false

namespace SozuGateway

namespace Lib

/-- The bytes of a text. -/
def utf8 (l : List Char) : List UInt8 := l.flatMap String.utf8EncodeChar

@[simp] theorem utf8_nil : utf8 [] = [] := rfl

@[simp] theorem utf8_append (l m : List Char) : utf8 (l ++ m) = utf8 l ++ utf8 m :=
  List.flatMap_append

theorem utf8_cons (c : Char) (l : List Char) : utf8 (c :: l) = String.utf8EncodeChar c ++ utf8 l :=
  rfl

/-- **No character's bytes start another's.** -/
theorem utf8Char_prefixFree : PrefixFree String.utf8EncodeChar := by
  rintro c d ⟨r, h⟩
  have hc := ByteArray.utf8DecodeChar?_utf8EncodeChar_append (b := r.toByteArray) (c := c)
  have hd := ByteArray.utf8DecodeChar?_utf8EncodeChar_append (b := ByteArray.empty) (c := d)
  rw [← List.toByteArray_append, h] at hc
  rw [ByteArray.append_empty, hc] at hd
  exact Option.some.inj hd

/-- A text is read off the front of another's bytes. -/
theorem prefix_of_utf8_prefix {l m : List Char} (h : utf8 l <+: utf8 m) : l <+: m := by
  induction l generalizing m with
  | nil => exact List.nil_prefix
  | cons c l ih =>
    cases m with
    | nil =>
      have hnil : String.utf8EncodeChar c = [] := by
        rw [utf8_nil, List.prefix_nil, utf8_cons] at h
        exact (List.append_eq_nil_iff.1 h).1
      exact absurd hnil String.utf8EncodeChar_ne_nil
    | cons d m =>
      obtain ⟨r, hr⟩ := h
      rw [utf8_cons, utf8_cons, List.append_assoc] at hr
      obtain ⟨rfl, hrest⟩ := utf8Char_prefixFree.append_inj hr
      exact (List.prefix_cons_inj c).2 (ih ⟨r, hrest⟩)

theorem utf8_injective : Function.Injective utf8 := by
  intro l m h
  have hlm : l <+: m := prefix_of_utf8_prefix (h ▸ List.prefix_refl _)
  have hml : m <+: l := prefix_of_utf8_prefix (h ▸ List.prefix_refl _)
  exact hlm.eq_of_length (le_antisymm hlm.length_le hml.length_le)

/-- **A byte below 128 stands for a character of its own.** -/
theorem toNat_of_mem_utf8Char {c : Char} {b : UInt8} (hb : b.toNat < 128)
    (h : b ∈ String.utf8EncodeChar c) : c.toNat = b.toNat := by
  have hval : c.toNat = c.val.toNat := rfl
  -- every byte of a longer encoding has its highest bit set
  have hhigh : ∀ n, 128 ≤ n → n < 256 → b ≠ UInt8.ofNat n := by
    rintro n hle hlt rfl
    rw [UInt8.toNat_ofNat', Nat.mod_eq_of_lt (by omega)] at hb
    omega
  unfold String.utf8EncodeChar at h
  dsimp only at h
  split_ifs at h <;> simp only [List.mem_cons, List.not_mem_nil, or_false] at h
  · rw [h, hval, UInt8.toNat_ofNat']
    omega
  · rcases h with h | h <;> exact absurd h (hhigh _ (by omega) (by omega))
  · rcases h with h | h | h <;> exact absurd h (hhigh _ (by omega) (by omega))
  · rcases h with h | h | h | h <;> exact absurd h (hhigh _ (by omega) (by omega))

theorem length_utf8 (s : String) : (utf8 s.toList).length = s.utf8ByteSize := by
  rw [← String.size_toByteArray, ← String.utf8Encode_toList, List.utf8Encode]
  simp [utf8]

end Lib

end SozuGateway
