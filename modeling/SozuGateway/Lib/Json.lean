import SozuGateway.Lib.Code

/-!
# JSON texts

A JSON value and its compact text, as `serde_json::to_string` writes it.

* `Json.render` — the text; `escape` — how a character of a string is written.
* `render_append_inj` — a value is read off the front of a text that goes on with
  no digit.
* `Json.text_injective` — two values with one text are one value.
-/

set_option autoImplicit false

namespace SozuGateway

namespace Lib

/-- A JSON value; an object keeps its fields in the order they are written. -/
inductive Json where
  | null
  | bool (b : Bool)
  | num (n : ℤ)
  | str (s : String)
  | arr (items : List Json)
  | obj (fields : List (String × Json))

namespace Json

/-! ## The text -/

/-- What follows the backslash in the escape of a character. -/
def escapeTail (n : ℕ) : List Char :=
  if n = 34 then ['"']
  else if n = 92 then ['\\']
  else if n = 8 then ['b']
  else if n = 9 then ['t']
  else if n = 10 then ['n']
  else if n = 12 then ['f']
  else if n = 13 then ['r']
  else ['u', '0', '0', Nat.digitChar (n / 16), Nat.digitChar (n % 16)]

/-- The code points written with an escape. -/
def needsEscape (n : ℕ) : Bool := n < 32 || n = 34 || n = 92

/-- How a character of a string is written. -/
def escape (c : Char) : List Char :=
  if needsEscape c.toNat then '\\' :: escapeTail c.toNat else [c]

/-- A quoted string. -/
def quote (s : String) : List Char := '"' :: (s.toList.flatMap escape ++ ['"'])

/-- An integer. -/
def renderInt (n : ℤ) : List Char :=
  if n < 0 then '-' :: Nat.toDigits 10 n.natAbs else Nat.toDigits 10 n.natAbs

mutual

/-- The compact text of a value. -/
def render : Json → List Char
  | .null => ['n', 'u', 'l', 'l']
  | .bool true => ['t', 'r', 'u', 'e']
  | .bool false => ['f', 'a', 'l', 's', 'e']
  | .num n => renderInt n
  | .str s => quote s
  | .arr items => '[' :: renderItems items
  | .obj fields => '\x7b' :: renderFields fields

/-- The items of an array, up to its bracket. -/
def renderItems : List Json → List Char
  | [] => [']']
  | [v] => render v ++ [']']
  | v :: w :: vs => render v ++ ',' :: renderItems (w :: vs)

/-- The fields of an object, up to its bracket. -/
def renderFields : List (String × Json) → List Char
  | [] => ['\x7d']
  | [(k, v)] => quote k ++ ':' :: (render v ++ ['\x7d'])
  | (k, v) :: f :: fs => quote k ++ ':' :: (render v ++ ',' :: renderFields (f :: fs))

end

/-- `serde_json::to_string`. -/
def text (v : Json) : String := String.ofList v.render

/-! ## Strings -/

theorem escapeTail_prefixFree : ∀ m n : Fin 93, needsEscape m → needsEscape n →
    (escapeTail m).isPrefixOf (escapeTail n) → m = n := by
  decide +kernel

theorem needsEscape_lt {n : ℕ} (h : needsEscape n = true) : n < 93 := by
  simp only [needsEscape, Bool.or_eq_true, decide_eq_true_eq] at h
  omega

theorem escape_prefixFree : PrefixFree escape := by
  intro c d h
  unfold escape at h
  by_cases hc : needsEscape c.toNat = true <;> by_cases hd : needsEscape d.toNat = true
  · simp only [hc, hd, if_true, List.cons_prefix_cons, true_and] at h
    have htails := escapeTail_prefixFree ⟨c.toNat, needsEscape_lt hc⟩ ⟨d.toNat, needsEscape_lt hd⟩
      hc hd (List.isPrefixOf_iff_prefix.2 h)
    exact Char.toNat_inj.1 (Fin.mk.inj htails)
  · rw [if_pos hc, if_neg hd, List.cons_prefix_cons] at h
    exact absurd (by rw [← h.1]; decide) hd
  · rw [if_neg hc, if_pos hd, List.cons_prefix_cons] at h
    exact absurd (by rw [h.1]; decide) hc
  · simpa [hc, hd] using h

theorem escape_head (c : Char) : ∃ d t, escape c = d :: t ∧ d ≠ '"' := by
  unfold escape
  by_cases hc : needsEscape c.toNat = true
  · exact ⟨'\\', _, if_pos hc, by decide⟩
  · refine ⟨c, [], if_neg hc, ?_⟩
    rintro rfl
    exact hc rfl

theorem quote_append_inj {s s' : String} {r r' : List Char} (h : quote s ++ r = quote s' ++ r') :
    s = s' ∧ r = r' := by
  simp only [quote, List.cons_append, List.append_assoc, List.cons.injEq, true_and,
    List.nil_append] at h
  obtain ⟨hs, hr⟩ := escape_prefixFree.terminated escape_head h
  exact ⟨String.toList_inj.1 hs, hr⟩

/-! ## Values -/

theorem isDigit_head_toDigits (n : ℕ) : ∃ c t, Nat.toDigits 10 n = c :: t ∧ c.isDigit = true := by
  cases h : Nat.toDigits 10 n with
  | nil => exact absurd h Nat.toDigits_ne_nil
  | cons c t =>
    refine ⟨c, t, rfl, Nat.isDigit_of_mem_toDigits (b := 10) (n := n) (by decide) (by decide) ?_⟩
    simp [h]

theorem renderInt_append_inj {m n : ℤ} {r s : List Char} (hr : Stops Char.isDigit r)
    (hs : Stops Char.isDigit s) (h : renderInt m ++ r = renderInt n ++ s) : m = n ∧ r = s := by
  unfold renderInt at h
  have hminus : ∀ k l (r : List Char), '-' :: l ≠ Nat.toDigits 10 k ++ r := by
    intro k l r heq
    obtain ⟨c, t, hc, hdigit⟩ := isDigit_head_toDigits k
    rw [hc, List.cons_append, List.cons.injEq] at heq
    rw [← heq.1] at hdigit
    exact absurd hdigit (by decide)
  by_cases hm : m < 0 <;> by_cases hn : n < 0
  · simp only [hm, hn, if_true, List.cons_append, List.cons.injEq, true_and] at h
    obtain ⟨hmn, hrs⟩ := toDigits_append_inj hr hs h
    exact ⟨by omega, hrs⟩
  · rw [if_pos hm, if_neg hn] at h
    exact absurd h (hminus _ _ _)
  · rw [if_neg hm, if_pos hn] at h
    exact absurd h.symm (hminus _ _ _)
  · rw [if_neg hm, if_neg hn] at h
    obtain ⟨hmn, hrs⟩ := toDigits_append_inj hr hs h
    exact ⟨by omega, hrs⟩

/-- Which kind of value a character starts, the last one none. -/
def kindOf (c : Char) : ℕ :=
  if c.isDigit ∨ c = '-' then 2 else if c = 'n' then 0 else if c = 't' ∨ c = 'f' then 1
  else if c = '"' then 3 else if c = '[' then 4 else if c = '\x7b' then 5 else 6

/-- The kind of a value. -/
def kind : Json → ℕ
  | .null => 0
  | .bool _ => 1
  | .num _ => 2
  | .str _ => 3
  | .arr _ => 4
  | .obj _ => 5

/-- The first character tells the kind. -/
theorem render_head (v : Json) : ∃ c t, v.render = c :: t ∧ kindOf c = v.kind := by
  cases v with
  | null => exact ⟨_, _, rfl, rfl⟩
  | bool b => cases b <;> exact ⟨_, _, rfl, rfl⟩
  | num n =>
    rw [render, renderInt]
    split
    · exact ⟨_, _, rfl, rfl⟩
    · obtain ⟨c, t, hc, hdigit⟩ := isDigit_head_toDigits n.natAbs
      exact ⟨c, t, hc, if_pos (.inl hdigit)⟩
  | str s => exact ⟨_, _, rfl, rfl⟩
  | arr items => exact ⟨_, _, rfl, rfl⟩
  | obj fields => exact ⟨_, _, rfl, rfl⟩

theorem kind_eq_of_append {v w : Json} {r s : List Char} (h : v.render ++ r = w.render ++ s) :
    v.kind = w.kind := by
  obtain ⟨c, t, hc, hv⟩ := render_head v
  obtain ⟨d, u, hd, hw⟩ := render_head w
  rw [hc, hd, List.cons_append, List.cons_append, List.cons.injEq] at h
  rw [← hv, ← hw, h.1]

/-- No value starts as the end of an array or an object does. -/
theorem render_ne_close {v : Json} {c : Char} {r s : List Char} (hc : kindOf c = 6) :
    v.render ++ r ≠ c :: s := by
  intro h
  obtain ⟨d, t, hd, hkind⟩ := render_head v
  rw [hd, List.cons_append, List.cons.injEq] at h
  rw [h.1, hc] at hkind
  cases v <;> simp [kind] at hkind

mutual

/-- **A value is read off the front of a text that goes on with no digit.** -/
theorem render_append_inj : ∀ (v w : Json) {r s : List Char}, Stops Char.isDigit r →
    Stops Char.isDigit s → v.render ++ r = w.render ++ s → v = w ∧ r = s
  | .null, w, r, s, _, _, h => by
    have hkind := kind_eq_of_append h
    cases w <;> simp [kind] at hkind
    exact ⟨rfl, by simpa [render] using h⟩
  | .bool b, w, r, s, _, _, h => by
    have hkind := kind_eq_of_append h
    cases w <;> simp [kind] at hkind
    rename_i b'
    cases b <;> cases b' <;> simp [render] at h ⊢ <;> exact h
  | .num n, w, r, s, hr, hs, h => by
    have hkind := kind_eq_of_append h
    cases w <;> simp [kind] at hkind
    rw [render, render] at h
    obtain ⟨rfl, hrs⟩ := renderInt_append_inj hr hs h
    exact ⟨rfl, hrs⟩
  | .str t, w, r, s, _, _, h => by
    have hkind := kind_eq_of_append h
    cases w <;> simp [kind] at hkind
    rw [render, render] at h
    obtain ⟨rfl, hrs⟩ := quote_append_inj h
    exact ⟨rfl, hrs⟩
  | .arr items, w, r, s, _, _, h => by
    have hkind := kind_eq_of_append h
    cases w <;> simp [kind] at hkind
    rw [render, render, List.cons_append, List.cons_append, List.cons.injEq] at h
    obtain ⟨rfl, hrs⟩ := renderItems_append_inj items _ h.2
    exact ⟨rfl, hrs⟩
  | .obj fields, w, r, s, _, _, h => by
    have hkind := kind_eq_of_append h
    cases w <;> simp [kind] at hkind
    rw [render, render, List.cons_append, List.cons_append, List.cons.injEq] at h
    obtain ⟨rfl, hrs⟩ := renderFields_append_inj fields _ h.2
    exact ⟨rfl, hrs⟩

theorem renderItems_append_inj : ∀ (l m : List Json) {r s : List Char},
    renderItems l ++ r = renderItems m ++ s → l = m ∧ r = s
  | [], m, r, s, h => by
    match m with
    | [] => exact ⟨rfl, by simpa [renderItems] using h⟩
    | [w] =>
      simp only [renderItems, List.append_assoc] at h
      exact absurd h.symm (render_ne_close (by decide))
    | w :: w' :: ws =>
      simp only [renderItems, List.append_assoc] at h
      exact absurd h.symm (render_ne_close (by decide))
  | [v], m, r, s, h => by
    match m with
    | [] =>
      simp only [renderItems, List.append_assoc] at h
      exact absurd h (render_ne_close (by decide))
    | [w] =>
      simp only [renderItems, List.append_assoc, List.cons_append, List.nil_append] at h
      obtain ⟨rfl, hrs⟩ := render_append_inj v w (stops_cons (by decide)) (stops_cons (by decide)) h
      exact ⟨rfl, (List.cons.inj hrs).2⟩
    | w :: w' :: ws =>
      simp only [renderItems, List.append_assoc, List.cons_append, List.nil_append] at h
      obtain ⟨-, hrs⟩ := render_append_inj v w (stops_cons (by decide)) (stops_cons (by decide)) h
      exact absurd (List.cons.inj hrs).1 (by decide)
  | v :: v' :: vs, m, r, s, h => by
    match m with
    | [] =>
      simp only [renderItems, List.append_assoc] at h
      exact absurd h (render_ne_close (by decide))
    | [w] =>
      simp only [renderItems, List.append_assoc, List.cons_append, List.nil_append] at h
      obtain ⟨-, hrs⟩ := render_append_inj v w (stops_cons (by decide)) (stops_cons (by decide)) h
      exact absurd (List.cons.inj hrs).1 (by decide)
    | w :: w' :: ws =>
      simp only [renderItems, List.append_assoc, List.cons_append] at h
      obtain ⟨rfl, hrest⟩ :=
        render_append_inj v w (stops_cons (by decide)) (stops_cons (by decide)) h
      obtain ⟨htail, hrs⟩ := renderItems_append_inj (v' :: vs) (w' :: ws) (List.cons.inj hrest).2
      exact ⟨congrArg _ htail, hrs⟩

theorem renderFields_append_inj : ∀ (l m : List (String × Json)) {r s : List Char},
    renderFields l ++ r = renderFields m ++ s → l = m ∧ r = s
  | [], m, r, s, h => by
    match m with
    | [] => exact ⟨rfl, by simpa [renderFields] using h⟩
    | [(k, w)] => simp [renderFields, quote] at h
    | (k, w) :: f :: fs => simp [renderFields, quote] at h
  | [(k, v)], m, r, s, h => by
    match m with
    | [] => simp [renderFields, quote] at h
    | [(k', w)] =>
      simp only [renderFields, List.append_assoc, List.cons_append, List.nil_append] at h
      obtain ⟨rfl, hrest⟩ := quote_append_inj h
      obtain ⟨rfl, hrs⟩ := render_append_inj v w (stops_cons (by decide)) (stops_cons (by decide))
        (List.cons.inj hrest).2
      exact ⟨rfl, (List.cons.inj hrs).2⟩
    | (k', w) :: f :: fs =>
      simp only [renderFields, List.append_assoc, List.cons_append, List.nil_append] at h
      obtain ⟨-, hrest⟩ := quote_append_inj h
      obtain ⟨-, hrs⟩ := render_append_inj v w (stops_cons (by decide)) (stops_cons (by decide))
        (List.cons.inj hrest).2
      exact absurd (List.cons.inj hrs).1 (by decide)
  | (k, v) :: f :: fs, m, r, s, h => by
    match m with
    | [] => simp [renderFields, quote] at h
    | [(k', w)] =>
      simp only [renderFields, List.append_assoc, List.cons_append, List.nil_append] at h
      obtain ⟨-, hrest⟩ := quote_append_inj h
      obtain ⟨-, hrs⟩ := render_append_inj v w (stops_cons (by decide)) (stops_cons (by decide))
        (List.cons.inj hrest).2
      exact absurd (List.cons.inj hrs).1 (by decide)
    | (k', w) :: f' :: fs' =>
      simp only [renderFields, List.append_assoc, List.cons_append] at h
      obtain ⟨rfl, hrest⟩ := quote_append_inj h
      obtain ⟨rfl, hrest'⟩ := render_append_inj v w (stops_cons (by decide))
        (stops_cons (by decide)) (List.cons.inj hrest).2
      obtain ⟨htail, hrs⟩ :=
        renderFields_append_inj (f :: fs) (f' :: fs') (List.cons.inj hrest').2
      exact ⟨congrArg _ htail, hrs⟩

end

/-- **Two values with one text are one value.** -/
theorem text_injective : Function.Injective text := by
  intro v w h
  have hrender : v.render ++ [] = w.render ++ [] := by
    rw [List.append_nil, List.append_nil]
    exact String.ofList_injective h
  exact (render_append_inj v w (stops_nil _) (stops_nil _) hrender).1

end Json

end Lib

end SozuGateway
