import SozuGateway.Ir
import SozuGateway.Lib.Code

/-!
# Addresses read back

What the printed form of a socket address tells.

* `alphabet` — the characters of a printed address (`mem_alphabet_of_mem_display`).
* `Span.IsZero` — a run of zero segments; `longestZeroes_isZero` — the longest one found
  is such a run.
* `fmtIpv6_injective` — an IPv6 address is read back from its words, the empty ones being
  where the run was left out.
* `display_injective` — two addresses without a flow label or a scope that print alike are
  equal.
-/

set_option autoImplicit false

namespace SozuGateway

namespace SocketAddr

open Lib

/-! ## Words -/

/-- The characters of a printed address. -/
def alphabet : List Char := digits ++ ".:[]%".toList

theorem mem_intercalate {sep : List Char} {words : List (List Char)} {c : Char}
    (h : c ∈ sep.intercalate words) : c ∈ sep ∨ ∃ w ∈ words, c ∈ w := by
  induction words with
  | nil => cases h
  | cons w words ih =>
    cases words with
    | nil => exact .inr ⟨w, List.mem_cons_self, by simpa using h⟩
    | cons w' words =>
      rw [List.intercalate_cons_cons, List.mem_append, List.mem_append] at h
      rcases h with (h | h) | h
      · exact .inr ⟨w, List.mem_cons_self, h⟩
      · exact .inl h
      · exact (ih h).imp_right fun ⟨v, hv, hc⟩ => ⟨v, List.mem_cons_of_mem w hv, hc⟩

/-- The characters of numerals joined by a separator. -/
theorem mem_numerals {b : ℕ} (hb : 1 < b) (hb' : b ≤ 16) {sep : Char} {ns : List ℕ} {c : Char}
    (h : c ∈ [sep].intercalate (ns.map (Nat.toDigits b))) : c = sep ∨ c ∈ digits := by
  rcases mem_intercalate h with hsep | ⟨w, hw, hc⟩
  · exact .inl (List.mem_singleton.1 hsep)
  · obtain ⟨n, -, rfl⟩ := List.mem_map.1 hw
    exact .inr (mem_digits_of_mem_toDigits hb hb' hc)

theorem mem_fmtOctets {octets : List ℕ} {c : Char} (h : c ∈ fmtOctets octets) :
    c = '.' ∨ c ∈ digits := mem_numerals (by decide) (by decide) h

theorem mem_fmtSubslice {segments : List ℕ} {c : Char} (h : c ∈ fmtSubslice segments) :
    c = ':' ∨ c ∈ digits := mem_numerals (by decide) (by decide) h

/-- The words of a text joined by one character. -/
theorem words_injective {sep : Char} {ws ws' : List (List Char)} (hws : ∀ w ∈ ws, sep ∉ w)
    (hws' : ∀ w ∈ ws', sep ∉ w) (hne : ws ≠ []) (hne' : ws' ≠ [])
    (h : [sep].intercalate ws = [sep].intercalate ws') : ws = ws' := by
  rw [← List.splitOn_intercalate sep hws hne, h, List.splitOn_intercalate sep hws' hne']

theorem fmtOctets_injective {octets octets' : List ℕ} (hne : octets ≠ []) (hne' : octets' ≠ [])
    (h : fmtOctets octets = fmtOctets octets') : octets = octets' := by
  have hdot : ∀ ns : List ℕ, ∀ w ∈ ns.map (Nat.toDigits 10), '.' ∉ w := by
    intro ns w hw hc
    obtain ⟨n, -, rfl⟩ := List.mem_map.1 hw
    exact absurd (mem_digits_of_mem_toDigits (by decide) (by decide) hc) (by decide)
  have hwords := words_injective (hdot octets) (hdot octets') (by simpa using hne)
    (by simpa using hne') h
  exact List.map_injective_iff.2 toDigits_ten_injective hwords

/-! ## Runs of zero segments -/

/-- Every segment of the run is zero. -/
def Span.IsZero (segments : List ℕ) (s : Span) : Prop :=
  ∀ j, s.start ≤ j → j < s.start + s.len → segments[j]? = some 0

theorem longestZeroes_isZero (segments rest : List ℕ) (i : ℕ) (current longest : Span)
    (hrest : segments.drop i = rest) (hcurrent : current.IsZero segments)
    (hend : current.len = 0 ∨ current.start + current.len = i)
    (hlongest : longest.IsZero segments) :
    (longestZeroes rest i current longest).IsZero segments := by
  induction rest generalizing i current longest with
  | nil => exact hlongest
  | cons s rest ih =>
    have hat : segments[i]? = some s := by
      have hhead := congrArg List.head? hrest
      rwa [List.head?_drop] at hhead
    have hnext : segments.drop (i + 1) = rest := by
      rw [← List.drop_drop, hrest]
      rfl
    rw [longestZeroes]
    by_cases hs : s = 0
    · rw [if_pos hs]
      subst hs
      have hgrown : ∀ grown : Span,
          grown = (if current.len = 0 then ⟨i, 1⟩ else ⟨current.start, current.len + 1⟩) →
          grown.IsZero segments ∧ grown.start + grown.len = i + 1 := by
        rintro grown rfl
        by_cases hlen : current.len = 0
        · rw [if_pos hlen]
          refine ⟨fun j hj hj' => ?_, rfl⟩
          obtain rfl : j = i := le_antisymm (Nat.le_of_lt_succ hj') hj
          exact hat
        · have hcut := hend.resolve_left hlen
          rw [if_neg hlen]
          refine ⟨fun j hj hj' => ?_, by simp only []; omega⟩
          by_cases hji : j = i
          · rw [hji, hat]
          · exact hcurrent j hj (by simp only [] at hj'; omega)
      obtain ⟨hzero, hcut⟩ := hgrown _ rfl
      have hlonger : ∀ (p : Prop) [Decidable p] (grown : Span), grown.IsZero segments →
          Span.IsZero segments (if p then grown else longest) := by
        intro p _ grown hgrown
        by_cases hp : p
        · rwa [if_pos hp]
        · rwa [if_neg hp]
      exact ih _ _ _ hnext hzero (.inr hcut) (hlonger _ _ hzero)
    · rw [if_neg hs]
      exact ih _ _ _ hnext (fun j hj hj' => absurd hj' (by simp)) (.inl rfl) hlongest

/-- The segments around a run of zeroes. -/
theorem Span.IsZero.split {segments : List ℕ} {s : Span} (h : s.IsZero segments)
    (hlen : 0 < s.len) :
    segments = segments.take s.start ++ List.replicate s.len 0 ++ segments.drop (s.start + s.len) ∧
      s.start + s.len ≤ segments.length := by
  have hbound : s.start + s.len ≤ segments.length := by
    have hlast := h (s.start + s.len - 1) (by omega) (by omega)
    have hlt := (List.getElem?_eq_some_iff.1 hlast).1
    omega
  have hrun : (segments.drop s.start).take s.len = List.replicate s.len 0 := by
    rw [List.eq_replicate_iff]
    refine ⟨by rw [List.length_take, List.length_drop]; omega, fun n hn => ?_⟩
    obtain ⟨j, hj, rfl⟩ := List.mem_iff_getElem.1 hn
    have hlt : j < s.len := lt_of_lt_of_le hj (by rw [List.length_take]; exact min_le_left _ _)
    have hzero := h (s.start + j) (by omega) (by omega)
    rw [List.getElem_take, List.getElem_drop]
    exact (List.getElem?_eq_some_iff.1 hzero).2
  refine ⟨?_, hbound⟩
  rw [← hrun, List.append_assoc, ← List.drop_drop, List.take_append_drop, List.take_append_drop]

/-! ## IPv6 addresses -/

/-- The words of a part of an IPv6 address; the part that is left out has an empty one. -/
def groupWords (segments : List ℕ) : List (List Char) :=
  if segments = [] then [[]] else segments.map (Nat.toDigits 16)

theorem groupWords_ne_nil (segments : List ℕ) : groupWords segments ≠ [] := by
  unfold groupWords
  by_cases h : segments = []
  · simp [h]
  · simp [h]

theorem colon_not_mem_groupWords {segments : List ℕ} : ∀ w ∈ groupWords segments, ':' ∉ w := by
  intro w hw hc
  unfold groupWords at hw
  by_cases h : segments = []
  · rw [if_pos h, List.mem_singleton] at hw
    rw [hw] at hc
    cases hc
  · rw [if_neg h] at hw
    obtain ⟨n, -, rfl⟩ := List.mem_map.1 hw
    exact absurd (mem_digits_of_mem_toDigits (by decide) (by decide) hc) (by decide)

/-- No word around the run that is left out has a colon. -/
theorem colon_not_mem_compressed {a b : List ℕ} :
    ∀ w ∈ groupWords a ++ [] :: groupWords b, ':' ∉ w := by
  intro w hw
  rcases List.mem_append.1 hw with hw | hw
  · exact colon_not_mem_groupWords w hw
  · rcases List.mem_cons.1 hw with rfl | hw
    · exact List.not_mem_nil
    · exact colon_not_mem_groupWords w hw

theorem fmtSubslice_eq (segments : List ℕ) :
    fmtSubslice segments = [':'].intercalate (groupWords segments) := by
  unfold fmtSubslice groupWords
  by_cases h : segments = []
  · rw [if_pos h, h]
    rfl
  · rw [if_neg h]

theorem intercalate_append {sep : List Char} {xs ys : List (List Char)} (hx : xs ≠ [])
    (hy : ys ≠ []) :
    sep.intercalate (xs ++ ys) = sep.intercalate xs ++ sep ++ sep.intercalate ys := by
  induction xs with
  | nil => exact absurd rfl hx
  | cons x xs ih =>
    cases xs with
    | nil =>
      rw [List.singleton_append, List.intercalate_cons_of_ne_nil hy, List.intercalate_singleton]
    | cons x' xs =>
      have hrest : x' :: xs ≠ [] := List.cons_ne_nil x' xs
      have hall : x' :: xs ++ ys ≠ [] := List.cons_ne_nil x' (xs ++ ys)
      rw [List.cons_append, List.intercalate_cons_of_ne_nil hall, ih hrest,
        List.intercalate_cons_of_ne_nil hrest]
      simp only [List.append_assoc]

/-- The words of an address around the run that is left out. -/
theorem fmtCompressed_eq (a b : List ℕ) :
    fmtSubslice a ++ "::".toList ++ fmtSubslice b =
      [':'].intercalate (groupWords a ++ [] :: groupWords b) := by
  rw [intercalate_append (groupWords_ne_nil a) (by simp),
    List.intercalate_cons_of_ne_nil (groupWords_ne_nil b), fmtSubslice_eq, fmtSubslice_eq]
  simp

/-- The words before the first empty one tell the part they spell. -/
theorem groupWords_append_inj {a a' b b' : List ℕ}
    (h : groupWords a ++ [] :: groupWords b = groupWords a' ++ [] :: groupWords b') :
    a = a' ∧ b = b' := by
  have hwords : ∀ ns : List ℕ, [] ∉ ns.map (Nat.toDigits 16) := by
    intro ns hmem
    obtain ⟨n, -, hn⟩ := List.mem_map.1 hmem
    exact Nat.toDigits_ne_nil hn
  have hinj : Function.Injective (List.map (Nat.toDigits 16)) :=
    List.map_injective_iff.2 (toDigits_injective (by decide) (by decide))
  -- an empty part is the one word that is empty
  have hgroup : ∀ ns ms : List ℕ, groupWords ns = groupWords ms → ns = ms := by
    intro ns ms heq
    unfold groupWords at heq
    by_cases hn : ns = [] <;> by_cases hm : ms = []
    · rw [hn, hm]
    · rw [if_pos hn, if_neg hm] at heq
      exact absurd (heq ▸ List.mem_singleton_self _) (hwords ms)
    · rw [if_neg hn, if_pos hm] at heq
      exact absurd (heq ▸ List.mem_singleton_self _) (hwords ns)
    · rw [if_neg hn, if_neg hm] at heq
      exact hinj heq
  have hhead : ∀ ns : List ℕ, ns ≠ [] → ∀ rest : List (List Char),
      groupWords ns ++ rest = ns.map (Nat.toDigits 16) ++ rest ∧
        (groupWords ns ++ rest).head? ≠ some [] := by
    intro ns hn rest
    have heq : groupWords ns = ns.map (Nat.toDigits 16) := if_neg hn
    refine ⟨by rw [heq], ?_⟩
    obtain ⟨n, ns, rfl⟩ := List.exists_cons_of_ne_nil hn
    rw [heq]
    simp
  by_cases ha : a = [] <;> by_cases ha' : a' = []
  · subst ha ha'
    exact ⟨rfl, hgroup b b' (by simpa [groupWords] using h)⟩
  · have hne := (hhead a' ha' ([] :: groupWords b')).2
    rw [← h, ha] at hne
    exact absurd rfl hne
  · have hne := (hhead a ha ([] :: groupWords b)).2
    rw [h, ha'] at hne
    exact absurd rfl hne
  · rw [(hhead a ha _).1, (hhead a' ha' _).1] at h
    obtain ⟨hab, hrest⟩ := append_mark_inj (hwords a) (hwords a') h
    exact ⟨hinj hab, hgroup b b' hrest⟩

/-- How an address that is not IPv4-mapped is printed: whole, or with a run of zeroes left
out. -/
theorem fmtIpv6_cases (ip : Ipv6Addr) (h : ip.segments.take 6 ≠ [0, 0, 0, 0, 0, 0xffff]) :
    (∃ a n b, ip.segments = a ++ List.replicate n 0 ++ b ∧ 0 < n ∧
        fmtIpv6 ip = [':'].intercalate (groupWords a ++ [] :: groupWords b)) ∨
      fmtIpv6 ip = [':'].intercalate (ip.segments.map (Nat.toDigits 16)) := by
  unfold fmtIpv6
  rw [if_neg h]
  set zeroes := longestZeroes ip.segments 0 ⟨0, 0⟩ ⟨0, 0⟩ with hzeroes
  have hnone : Span.IsZero ip.segments ⟨0, 0⟩ := fun j _ hj => absurd hj (by simp)
  have hzero : zeroes.IsZero ip.segments :=
    longestZeroes_isZero ip.segments ip.segments 0 _ _ rfl hnone (.inl rfl) hnone
  by_cases hlen : 1 < zeroes.len
  · simp only [if_pos hlen]
    exact .inl ⟨_, _, _, (hzero.split (by omega)).1, by omega, fmtCompressed_eq _ _⟩
  · simp only [if_neg hlen]
    exact .inr rfl

theorem segments_injective : Function.Injective Ipv6Addr.segments := by
  rintro ⟨a, b, c, d, e, f, g, h⟩ ⟨a', b', c', d', e', f', g', h'⟩ heq
  simp_all [Ipv6Addr.segments, UInt16.toNat_inj]

theorem dot_not_mem_fmtIpv6 {ip : Ipv6Addr} (h : ip.segments.take 6 ≠ [0, 0, 0, 0, 0, 0xffff]) :
    '.' ∉ fmtIpv6 ip := by
  intro hc
  have hparts : ∀ segments, '.' ∉ fmtSubslice segments := by
    intro segments hmem
    rcases mem_fmtSubslice hmem with hsep | hdigit
    · exact absurd hsep (by decide)
    · exact absurd hdigit (by decide)
  unfold fmtIpv6 at hc
  rw [if_neg h] at hc
  simp only at hc
  split at hc
  · rcases List.mem_append.1 hc with hc | hc
    · rcases List.mem_append.1 hc with hc | hc
      · exact hparts _ hc
      · exact absurd hc (by decide)
    · exact hparts _ hc
  · exact hparts _ hc

/-- The printed form of an IPv4-mapped address. -/
theorem fmtIpv6_mapped {ip : Ipv6Addr} (h : ip.segments.take 6 = [0, 0, 0, 0, 0, 0xffff]) :
    fmtIpv6 ip = "::ffff:".toList ++
      fmtOctets [ip.g.toNat / 256, ip.g.toNat % 256, ip.h.toNat / 256, ip.h.toNat % 256] := by
  unfold fmtIpv6
  rw [if_pos h]

theorem dot_mem_fmtIpv6 {ip : Ipv6Addr} (h : ip.segments.take 6 = [0, 0, 0, 0, 0, 0xffff]) :
    '.' ∈ fmtIpv6 ip := by
  rw [fmtIpv6_mapped h]
  simp [fmtOctets, List.intercalate_cons_cons]

/-- The whole address: no word is empty. -/
theorem not_compressed {segments a b : List ℕ} (hne : segments ≠ []) :
    [':'].intercalate (segments.map (Nat.toDigits 16)) ≠
      [':'].intercalate (groupWords a ++ [] :: groupWords b) := by
  intro h
  have hwhole : groupWords segments = segments.map (Nat.toDigits 16) := if_neg hne
  rw [← hwhole] at h
  have hwords := words_injective colon_not_mem_groupWords colon_not_mem_compressed
    (groupWords_ne_nil _) (by simp) h
  have hmem : [] ∈ segments.map (Nat.toDigits 16) := by
    rw [← hwhole, hwords]
    simp
  obtain ⟨n, -, hn⟩ := List.mem_map.1 hmem
  exact Nat.toDigits_ne_nil hn

/-- **An IPv6 address is read back from its printed form.** -/
theorem fmtIpv6_injective : Function.Injective fmtIpv6 := by
  intro ip ip' heq
  have hlength : ∀ x : Ipv6Addr, x.segments.length = 8 := fun _ => rfl
  have hne : ∀ x : Ipv6Addr, x.segments ≠ [] := fun _ => by simp [Ipv6Addr.segments]
  by_cases hmapped : ip.segments.take 6 = [0, 0, 0, 0, 0, 0xffff] <;>
    by_cases hmapped' : ip'.segments.take 6 = [0, 0, 0, 0, 0, 0xffff]
  · rw [fmtIpv6_mapped hmapped, fmtIpv6_mapped hmapped'] at heq
    have hoctets := fmtOctets_injective (by simp) (by simp) (List.append_cancel_left heq)
    simp only [List.cons.injEq, and_true] at hoctets
    obtain ⟨hg, hg', hh, hh'⟩ := hoctets
    apply segments_injective
    rw [← List.take_append_drop 6 ip.segments, ← List.take_append_drop 6 ip'.segments, hmapped,
      hmapped']
    have hgg : ip.g.toNat = ip'.g.toNat := by omega
    have hhh : ip.h.toNat = ip'.h.toNat := by omega
    simp [Ipv6Addr.segments, hgg, hhh]
  · exact absurd (heq ▸ dot_mem_fmtIpv6 hmapped) (dot_not_mem_fmtIpv6 hmapped')
  · exact absurd (heq.symm ▸ dot_mem_fmtIpv6 hmapped') (dot_not_mem_fmtIpv6 hmapped)
  · apply segments_injective
    rcases fmtIpv6_cases ip hmapped with ⟨a, n, b, hsegments, -, htext⟩ | htext <;>
      rcases fmtIpv6_cases ip' hmapped' with ⟨a', n', b', hsegments', -, htext'⟩ | htext'
    · rw [htext, htext'] at heq
      obtain ⟨rfl, rfl⟩ := groupWords_append_inj
        (words_injective colon_not_mem_compressed colon_not_mem_compressed (by simp) (by simp) heq)
      -- the run left out is as long as what is missing
      have hn : n = n' := by
        have hlen := congrArg List.length hsegments
        have hlen' := congrArg List.length hsegments'
        simp only [hlength, List.length_append, List.length_replicate] at hlen hlen'
        omega
      rw [hsegments, hsegments', hn]
    · rw [htext, htext'] at heq
      exact absurd heq.symm (not_compressed (hne ip'))
    · rw [htext, htext'] at heq
      exact absurd heq (not_compressed (hne ip))
    · rw [htext, htext'] at heq
      have hwhole : ∀ x : Ipv6Addr, x.segments.map (Nat.toDigits 16) = groupWords x.segments :=
        fun x => (if_neg (hne x)).symm
      rw [hwhole, hwhole] at heq
      have hwords := words_injective colon_not_mem_groupWords colon_not_mem_groupWords
        (groupWords_ne_nil _) (groupWords_ne_nil _) heq
      rw [← hwhole, ← hwhole] at hwords
      exact List.map_injective_iff.2 (toDigits_injective (by decide) (by decide)) hwords

/-! ## Socket addresses -/

theorem mem_fmtIpv6 {ip : Ipv6Addr} {c : Char} (h : c ∈ fmtIpv6 ip) :
    c = '.' ∨ c = ':' ∨ c ∈ digits := by
  unfold fmtIpv6 at h
  simp only at h
  split at h
  · rcases List.mem_append.1 h with h | h
    · have hmark : c = ':' ∨ c = 'f' ∨ c = ':' := by simpa using h
      rcases hmark with rfl | rfl | rfl
      · exact .inr (.inl rfl)
      · exact .inr (.inr (digitChar_mem (by decide : 15 < 16)))
      · exact .inr (.inl rfl)
    · exact (mem_fmtOctets h).imp_right .inr
  · split at h
    · rcases List.mem_append.1 h with h | h
      · rcases List.mem_append.1 h with h | h
        · exact .inr (mem_fmtSubslice h)
        · exact .inr (.inl (by simpa using h))
      · exact .inr (mem_fmtSubslice h)
    · exact .inr (mem_fmtSubslice h)

theorem mem_digits_of_decimal {n : ℕ} {c : Char} (h : c ∈ Nat.toDigits 10 n) : c ∈ digits :=
  mem_digits_of_mem_toDigits (by decide) (by decide) h

/-- **The characters of a printed address.** -/
theorem mem_alphabet_of_mem_display {x : SocketAddr} {c : Char} (h : c ∈ x.display) :
    c ∈ alphabet := by
  have hmark : ∀ m ∈ ".:[]%".toList, m ∈ alphabet := fun m hm => List.mem_append_right _ hm
  have hdigit : ∀ d ∈ digits, d ∈ alphabet := fun d hd => List.mem_append_left _ hd
  cases x with
  | v4 ip port =>
    rcases List.mem_append.1 h with h | h
    · rcases mem_fmtOctets h with rfl | h
      · exact hmark _ (by decide)
      · exact hdigit c h
    · rcases List.mem_cons.1 h with rfl | h
      · exact hmark _ (by decide)
      · exact hdigit c (mem_digits_of_decimal h)
  | v6 ip port flowinfo scopeId =>
    simp only [display, List.mem_append, List.mem_cons] at h
    rcases h with (((rfl | h) | h) | h) | h
    · exact hmark _ (by decide)
    · rcases mem_fmtIpv6 h with rfl | rfl | h
      · exact hmark _ (by decide)
      · exact hmark _ (by decide)
      · exact hdigit c h
    · split at h
      · cases h
      · rcases List.mem_cons.1 h with rfl | h
        · exact hmark _ (by decide)
        · exact hdigit c (mem_digits_of_decimal h)
    · have hsep : c = ']' ∨ c = ':' := by simpa using h
      rcases hsep with rfl | rfl
      · exact hmark _ (by decide)
      · exact hmark _ (by decide)
    · exact hdigit c (mem_digits_of_decimal h)

theorem isPlain_v6_iff {ip : Ipv6Addr} {port : UInt16} {flowinfo scopeId : UInt32} :
    (v6 ip port flowinfo scopeId).IsPlain ↔ flowinfo = 0 ∧ scopeId = 0 := by
  simp only [IsPlain, plain, v6.injEq, true_and]
  exact ⟨fun h => ⟨h.1.symm, h.2.symm⟩, fun h => ⟨h.1.symm, h.2.symm⟩⟩

theorem display_v6 (ip : Ipv6Addr) (port : UInt16) :
    (v6 ip port 0 0).display =
      '[' :: (fmtIpv6 ip ++ ']' :: ':' :: Nat.toDigits 10 port.toNat) := by
  simp [display]

theorem octets_injective : Function.Injective Ipv4Addr.octets := by
  rintro ⟨a, b, c, d⟩ ⟨a', b', c', d'⟩ heq
  simp_all [Ipv4Addr.octets, UInt8.toNat_inj]

theorem port_injective {p q : UInt16} (h : Nat.toDigits 10 p.toNat = Nat.toDigits 10 q.toNat) :
    p = q := UInt16.toNat_inj.1 (toDigits_ten_injective h)

/-- An IPv4 address does not start with a bracket. -/
theorem display_v4_ne_v6 (ip : Ipv4Addr) (port : UInt16) (rest : List Char) :
    (v4 ip port).display ≠ '[' :: rest := by
  intro h
  have hmem : '[' ∈ fmtOctets ip.octets := by
    rw [display] at h
    cases hoctets : fmtOctets ip.octets with
    | nil =>
      rw [hoctets, List.nil_append, List.cons.injEq] at h
      exact absurd h.1 (by decide)
    | cons c cs =>
      rw [hoctets, List.cons_append, List.cons.injEq] at h
      rw [h.1]
      exact List.mem_cons_self
  rcases mem_fmtOctets hmem with hdot | hdigit
  · exact absurd hdot (by decide)
  · exact absurd hdigit (by decide)

/-- **Two plain addresses that print alike are equal.** -/
theorem display_injective {x y : SocketAddr} (hx : x.IsPlain) (hy : y.IsPlain)
    (h : x.display = y.display) : x = y := by
  have hcolon : ∀ ip : Ipv4Addr, ':' ∉ fmtOctets ip.octets := by
    intro ip hmem
    rcases mem_fmtOctets hmem with hdot | hdigit
    · exact absurd hdot (by decide)
    · exact absurd hdigit (by decide)
  have hbracket : ∀ ip : Ipv6Addr, ']' ∉ fmtIpv6 ip := by
    intro ip hmem
    rcases mem_fmtIpv6 hmem with hdot | hsep | hdigit
    · exact absurd hdot (by decide)
    · exact absurd hsep (by decide)
    · exact absurd hdigit (by decide)
  cases x with
  | v4 ip port =>
    cases y with
    | v4 ip' port' =>
      obtain ⟨hip, hport⟩ := append_mark_inj (hcolon ip) (hcolon ip') h
      have hip : ip = ip' := octets_injective
        (fmtOctets_injective (by simp [Ipv4Addr.octets]) (by simp [Ipv4Addr.octets]) hip)
      rw [hip, port_injective hport]
    | v6 ip' port' flowinfo scopeId =>
      obtain ⟨rfl, rfl⟩ := isPlain_v6_iff.1 hy
      rw [display_v6] at h
      exact absurd h (display_v4_ne_v6 ip port _)
  | v6 ip port flowinfo scopeId =>
    obtain ⟨rfl, rfl⟩ := isPlain_v6_iff.1 hx
    cases y with
    | v4 ip' port' =>
      rw [display_v6] at h
      exact absurd h.symm (display_v4_ne_v6 ip' port' _)
    | v6 ip' port' flowinfo' scopeId' =>
      obtain ⟨rfl, rfl⟩ := isPlain_v6_iff.1 hy
      rw [display_v6, display_v6] at h
      obtain ⟨hip, hport⟩ := append_mark_inj (hbracket ip) (hbracket ip') (List.cons.inj h).2
      rw [fmtIpv6_injective hip, port_injective (List.cons.inj hport).2]

end SocketAddr

end SozuGateway
