import SozuGateway.Translator.Transfer

/-!
# Certificates, keyed as Sōzu keys them

`keyed_certs`: the certificates of an IR grouped by listener and leaf
fingerprint, with the union of each group's names and its smallest material.

* `KeyedCert` — a group; `keyedCerts` builds them in one pass.
* `Grouped` — what the pass keeps true of the groups of the entries read so far;
  `keyedCerts_ok` — what it leaves.
* `keyedCerts_filter` — the groups of some keys are the groups of their entries.
-/

set_option autoImplicit false

namespace SozuGateway

namespace Translator

open Lib Sozu

/-! ## Fingerprints and chains -/

/-- A hexadecimal digit, in lower case. -/
def hexDigit (n : ℕ) : Char := "0123456789abcdef".toList.getD n '0'

/-- Lower-case hex, two digits a byte. -/
def hex (bytes : List (Fin 256)) : String :=
  String.ofList (bytes.flatMap fun b => [hexDigit (b.val / 16), hexDigit (b.val % 16)])

/-- A DER certificate. -/
abbrev Der := List (Fin 256)

section Library

variable (lib : Library)

/-- Lower-case hex fingerprint of a certificate's leaf. -/
def fingerprint (c : Certificate) : Except TranslatorError String :=
  match lib.calculateFingerprint c.certificate with
  | .ok bytes => .ok (hex bytes)
  | .error e => .error (.certificate e)

/-- The DER of a PEM text's first block. -/
def decode (pem : String) : Except TranslatorError Der :=
  match lib.parsePem pem with
  | .ok contents => .ok contents
  | .error e => .error (.certificate e)

/-- The certificate chain Sōzu serves after the leaf: every block of every chain
entry, decoded, minus copies of the leaf. -/
def servedChain (c : Certificate) : Except TranslatorError (List Der) := do
  let leaf ← decode lib c.certificate
  let links ← (c.chain.flatMap lib.splitCertificateChain).mapM (decode lib)
  return links.filter fun link => link ≠ leaf

end Library

/-! ## Grouping -/

/-- A certificate keyed by listener and fingerprint. -/
structure KeyedCert where
  listener : SocketAddr
  fingerprint : String
  /-- The intermediates as Sōzu serves them. -/
  chain : List Der
  cert : Certificate
  deriving DecidableEq

namespace KeyedCert

/-- Sōzu's identity for a loaded certificate. -/
def key (k : KeyedCert) : SocketAddr × String := (k.listener, k.fingerprint)

/-- What the material of a group's entries is compared by: the longest chain
first, then the chain, the key and the PEM text. -/
def material (chain : List Der) (c : Certificate) :
    ℕᵒᵈ ×ₗ (List Der ×ₗ (String ×ₗ String)) :=
  toLex (OrderDual.toDual chain.length, toLex (chain, toLex (c.key, c.certificate)))

/-- The group with one more entry: the union of the names, sorted, over the
smaller material. -/
def absorb (existing : KeyedCert) (c : Certificate) (chain : List Der) : KeyedCert :=
  let names := (BTreeSet.ofList (existing.cert.names ++ c.names)).toList
  if material chain c < material existing.chain existing.cert then
    { existing with chain, cert := { c with names } }
  else { existing with cert := { existing.cert with names } }

end KeyedCert

/-- File an entry under its key: into its group, or as a new one at the end. -/
def fileCert (c : Certificate) (fp : String) (chain : List Der) : List KeyedCert → List KeyedCert
  | [] => [⟨c.listener, fp, chain, c⟩]
  | k :: out =>
      if k.key = (c.listener, fp) then k.absorb c chain :: out else k :: fileCert c fp chain out

section Library

variable (lib : Library)

/-- Group the rest of the entries into the groups read so far. -/
def keyedCertsFrom (out : List KeyedCert) :
    List Certificate → Except TranslatorError (List KeyedCert)
  | [] => .ok out
  | c :: certs => do
      let fp ← fingerprint lib c
      let chain ← servedChain lib c
      keyedCertsFrom (fileCert c fp chain out) certs

/-- Group the certificates by listener and fingerprint. -/
def keyedCerts (certs : List Certificate) : Except TranslatorError (List KeyedCert) :=
  keyedCertsFrom lib [] certs

/-! ## What the pass keeps true -/

/-- The entry parses: its fingerprint and its served chain. -/
structure Parses (c : Certificate) (fp : String) (chain : List Der) : Prop where
  fingerprint : fingerprint lib c = .ok fp
  chain : servedChain lib c = .ok chain

/-- The entry is one of the group `k`. -/
def InGroup (c : Certificate) (k : KeyedCert) : Prop :=
  c.listener = k.listener ∧ fingerprint lib c = .ok k.fingerprint

/-- The groups of the entries `done`. -/
structure Grouped (done : List Certificate) (out : List KeyedCert) : Prop where
  nodup : (out.map KeyedCert.key).Nodup
  /-- Each entry parses and is in a group. -/
  covers : ∀ c ∈ done, ∃ k ∈ out, InGroup lib c k
  parses : ∀ c ∈ done, ∃ chain, servedChain lib c = .ok chain
  /-- A group's names are those of its entries. -/
  names : ∀ k ∈ out, ∀ n, n ∈ k.cert.names ↔ ∃ c ∈ done, InGroup lib c k ∧ n ∈ c.names
  /-- A group's material is that of one of its entries, -/
  source : ∀ k ∈ out, ∃ c ∈ done, InGroup lib c k ∧ servedChain lib c = .ok k.chain ∧
    { c with names := k.cert.names } = k.cert
  /-- and none has a smaller one. -/
  least : ∀ k ∈ out, ∀ c ∈ done, InGroup lib c k → ∀ chain, servedChain lib c = .ok chain →
    KeyedCert.material k.chain k.cert ≤ KeyedCert.material chain c

variable {lib}

@[simp] theorem key_absorb (k : KeyedCert) (c : Certificate) (chain : List Der) :
    (k.absorb c chain).key = k.key := by
  unfold KeyedCert.absorb
  split <;> rfl

theorem names_absorb {k : KeyedCert} {c : Certificate} {chain : List Der} {n : String} :
    n ∈ (k.absorb c chain).cert.names ↔ n ∈ k.cert.names ∨ n ∈ c.names := by
  unfold KeyedCert.absorb
  split <;> simp

/-- Which material a group has after one more entry. -/
theorem absorb_cases (k : KeyedCert) (c : Certificate) (chain : List Der) :
    ((k.absorb c chain).chain = chain ∧
        (k.absorb c chain).cert = { c with names := (k.absorb c chain).cert.names } ∧
        KeyedCert.material chain c < KeyedCert.material k.chain k.cert) ∨
      ((k.absorb c chain).chain = k.chain ∧
        (k.absorb c chain).cert = { k.cert with names := (k.absorb c chain).cert.names } ∧
        KeyedCert.material k.chain k.cert ≤ KeyedCert.material chain c) := by
  unfold KeyedCert.absorb
  by_cases h : KeyedCert.material chain c < KeyedCert.material k.chain k.cert
  · rw [if_pos h]
    exact .inl ⟨rfl, rfl, h⟩
  · rw [if_neg h]
    exact .inr ⟨rfl, rfl, not_lt.1 h⟩

/-- The names of an entry do not count in its material. -/
theorem material_names (chain : List Der) (c : Certificate) (names : List String) :
    KeyedCert.material chain { c with names } = KeyedCert.material chain c := rfl

theorem inGroup_congr {c : Certificate} {k k' : KeyedCert} (h : k.key = k'.key) :
    InGroup lib c k ↔ InGroup lib c k' := by
  simp only [KeyedCert.key, Prod.mk.injEq] at h
  unfold InGroup
  rw [h.1, h.2]

theorem InGroup.key_eq {c : Certificate} {k k' : KeyedCert} (h : InGroup lib c k)
    (h' : InGroup lib c k') : k.key = k'.key := by
  have hfp : k.fingerprint = k'.fingerprint := Except.ok.inj (h.2.symm.trans h'.2)
  simp only [KeyedCert.key, ← h.1, ← h'.1, hfp]

/-- How filing an entry changes the groups. -/
theorem fileCert_cases (c : Certificate) (fp : String) (chain : List Der) (out : List KeyedCert) :
    (∃ before k after, out = before ++ k :: after ∧ k.key = (c.listener, fp) ∧
        fileCert c fp chain out = before ++ k.absorb c chain :: after) ∨
      ((∀ k ∈ out, k.key ≠ (c.listener, fp)) ∧
        fileCert c fp chain out = out ++ [⟨c.listener, fp, chain, c⟩]) := by
  induction out with
  | nil => exact .inr ⟨by simp, rfl⟩
  | cons k out ih =>
    rw [fileCert]
    by_cases hk : k.key = (c.listener, fp)
    · rw [if_pos hk]
      exact .inl ⟨[], k, out, rfl, hk, rfl⟩
    · rw [if_neg hk]
      rcases ih with ⟨before, k', after, rfl, hk', hfile⟩ | ⟨hnone, hfile⟩
      · exact .inl ⟨k :: before, k', after, rfl, hk', by rw [hfile]; rfl⟩
      · refine .inr ⟨?_, by rw [hfile]; rfl⟩
        intro k' hk'
        rcases List.mem_cons.1 hk' with rfl | hk'
        · exact hk
        · exact hnone k' hk'

theorem Grouped.parses_append {done : List Certificate} {out : List KeyedCert}
    (h : Grouped lib done out) {c : Certificate} {fp : String} {chain : List Der}
    (hc : Parses lib c fp chain) : ∀ c' ∈ done ++ [c], ∃ chain, servedChain lib c' = .ok chain := by
  intro c' hc'
  rcases List.mem_append.1 hc' with hc' | hc'
  · exact h.parses c' hc'
  · rw [List.mem_singleton.1 hc']
    exact ⟨chain, hc.chain⟩

/-- A group the new entry is not in keeps its names, -/
theorem Grouped.names_other {done : List Certificate} {out : List KeyedCert}
    (h : Grouped lib done out) {c : Certificate} {k : KeyedCert} (hk : k ∈ out)
    (hnot : ¬InGroup lib c k) (n : String) :
    n ∈ k.cert.names ↔ ∃ c' ∈ done ++ [c], InGroup lib c' k ∧ n ∈ c'.names := by
  rw [h.names k hk]
  simp only [List.mem_append, List.mem_singleton]
  constructor
  · rintro ⟨c', hc', hin, hn⟩
    exact ⟨c', .inl hc', hin, hn⟩
  · rintro ⟨c', hc' | hc', hin, hn⟩
    · exact ⟨c', hc', hin, hn⟩
    · exact absurd (hc' ▸ hin) hnot

/-- the entry its material is of, -/
theorem Grouped.source_other {done : List Certificate} {out : List KeyedCert}
    (h : Grouped lib done out) {k : KeyedCert} (hk : k ∈ out) (c : Certificate) :
    ∃ c' ∈ done ++ [c], InGroup lib c' k ∧ servedChain lib c' = .ok k.chain ∧
      { c' with names := k.cert.names } = k.cert := by
  obtain ⟨c', hc', hrest⟩ := h.source k hk
  exact ⟨c', by simp [hc'], hrest⟩

/-- and has the least one still. -/
theorem Grouped.least_other {done : List Certificate} {out : List KeyedCert}
    (h : Grouped lib done out) {c : Certificate} {k : KeyedCert} (hk : k ∈ out)
    (hnot : ¬InGroup lib c k) :
    ∀ c' ∈ done ++ [c], InGroup lib c' k → ∀ chain, servedChain lib c' = .ok chain →
      KeyedCert.material k.chain k.cert ≤ KeyedCert.material chain c' := by
  intro c' hc' hin chain hserved
  rcases List.mem_append.1 hc' with hc' | hc'
  · exact h.least k hk c' hc' hin chain hserved
  · rw [List.mem_singleton.1 hc'] at hin
    exact absurd hin hnot

theorem inGroup_absorb {c c' : Certificate} {k : KeyedCert} {chain : List Der} :
    InGroup lib c' (k.absorb c chain) ↔ InGroup lib c' k :=
  inGroup_congr (key_absorb k c chain)

/-- The group it joins has its names too, -/
theorem Grouped.names_absorb {done : List Certificate} {out : List KeyedCert}
    (h : Grouped lib done out) {c : Certificate} {k : KeyedCert} (hk : k ∈ out)
    (hck : InGroup lib c k) (chain : List Der) (n : String) :
    n ∈ (k.absorb c chain).cert.names ↔
      ∃ c' ∈ done ++ [c], InGroup lib c' (k.absorb c chain) ∧ n ∈ c'.names := by
  rw [Translator.names_absorb, h.names k hk]
  simp only [List.mem_append, List.mem_singleton, inGroup_absorb]
  constructor
  · rintro (⟨c', hc', hin, hn⟩ | hn)
    · exact ⟨c', .inl hc', hin, hn⟩
    · exact ⟨c, .inr rfl, hck, hn⟩
  · rintro ⟨c', hc' | hc', hin, hn⟩
    · exact .inl ⟨c', hc', hin, hn⟩
    · exact .inr (hc' ▸ hn)

/-- the material of one of its entries, -/
theorem Grouped.source_absorb {done : List Certificate} {out : List KeyedCert}
    (h : Grouped lib done out) {c : Certificate} {chain : List Der} {k : KeyedCert} (hk : k ∈ out)
    (hc : Parses lib c k.fingerprint chain) (hck : InGroup lib c k) :
    ∃ c' ∈ done ++ [c], InGroup lib c' (k.absorb c chain) ∧
      servedChain lib c' = .ok (k.absorb c chain).chain ∧
      { c' with names := (k.absorb c chain).cert.names } = (k.absorb c chain).cert := by
  rcases absorb_cases k c chain with ⟨hchain, hcert, -⟩ | ⟨hchain, hcert, -⟩
  · refine ⟨c, by simp, inGroup_absorb.2 hck, ?_, hcert.symm⟩
    rw [hchain]
    exact hc.chain
  · obtain ⟨c', hc', hin, hserved, hsame⟩ := h.source k hk
    refine ⟨c', by simp [hc'], inGroup_absorb.2 hin, ?_, ?_⟩
    · rw [hchain]
      exact hserved
    · rw [hcert, ← hsame]

/-- and the least of them. -/
theorem Grouped.least_absorb {done : List Certificate} {out : List KeyedCert}
    (h : Grouped lib done out) {c : Certificate} {chain : List Der} {k : KeyedCert} (hk : k ∈ out)
    (hc : Parses lib c k.fingerprint chain) :
    ∀ c' ∈ done ++ [c], InGroup lib c' (k.absorb c chain) →
      ∀ chain', servedChain lib c' = .ok chain' →
        KeyedCert.material (k.absorb c chain).chain (k.absorb c chain).cert ≤
          KeyedCert.material chain' c' := by
  intro c' hc' hin chain' hserved
  rw [inGroup_absorb] at hin
  have hmin : min (KeyedCert.material k.chain k.cert) (KeyedCert.material chain c) ≤
      KeyedCert.material chain' c' := by
    rcases List.mem_append.1 hc' with hc' | hc'
    · exact le_trans (min_le_left _ _) (h.least k hk c' hc' hin chain' hserved)
    · rw [List.mem_singleton.1 hc'] at hserved ⊢
      obtain rfl := Except.ok.inj (hc.chain.symm.trans hserved)
      exact min_le_right _ _
  rcases absorb_cases k c chain with ⟨hchain, hcert, hlt⟩ | ⟨hchain, hcert, hle⟩
  · rw [min_eq_right (le_of_lt hlt)] at hmin
    rw [hchain, hcert]
    exact hmin
  · rw [min_eq_left hle] at hmin
    rw [hchain, hcert]
    exact hmin

/-- An entry of one group is in no other. -/
theorem Grouped.not_inGroup {done : List Certificate} {before after : List KeyedCert}
    {k : KeyedCert} (h : Grouped lib done (before ++ k :: after)) {c : Certificate}
    (hck : InGroup lib c k) {k' : KeyedCert} (hk' : k' ∈ before ++ after) : ¬InGroup lib c k' := by
  intro hck'
  have hkey := hck.key_eq hck'
  have hnd := h.nodup
  rw [List.map_append, List.map_cons, List.nodup_append, List.nodup_cons] at hnd
  rcases List.mem_append.1 hk' with hb | ha
  · exact hnd.2.2 k'.key (List.mem_map_of_mem hb) k.key (by simp) hkey.symm
  · exact hnd.2.1.1 (hkey ▸ List.mem_map_of_mem ha)

theorem mem_middle_iff {α : Type} {x y : α} {before after : List α} :
    x ∈ before ++ y :: after ↔ x = y ∨ x ∈ before ++ after :=
  List.perm_middle.mem_iff.trans List.mem_cons

/-- **An entry of a known key changes that group alone.** -/
theorem Grouped.join {done : List Certificate} {before after : List KeyedCert} {k : KeyedCert}
    (h : Grouped lib done (before ++ k :: after)) {c : Certificate} {chain : List Der}
    (hc : Parses lib c k.fingerprint chain) (hck : InGroup lib c k) :
    Grouped lib (done ++ [c]) (before ++ k.absorb c chain :: after) := by
  have hkeys : (before ++ k.absorb c chain :: after).map KeyedCert.key =
      (before ++ k :: after).map KeyedCert.key := by simp
  have hk : k ∈ before ++ k :: after := by simp
  have hother : ∀ k' ∈ before ++ after, k' ∈ before ++ k :: after := fun k' hk' =>
    mem_middle_iff.2 (.inr hk')
  refine ⟨hkeys ▸ h.nodup, ?_, h.parses_append hc, ?_, ?_, ?_⟩
  · intro c' hc'
    rcases List.mem_append.1 hc' with hc' | hc'
    · obtain ⟨k', hk', hck'⟩ := h.covers c' hc'
      rcases mem_middle_iff.1 hk' with rfl | hk'
      · exact ⟨k'.absorb c chain, by simp, inGroup_absorb.2 hck'⟩
      · exact ⟨k', mem_middle_iff.2 (.inr hk'), hck'⟩
    · rw [List.mem_singleton.1 hc']
      exact ⟨k.absorb c chain, by simp, inGroup_absorb.2 hck⟩
  · intro k' hk'
    rcases mem_middle_iff.1 hk' with rfl | hk'
    · exact h.names_absorb hk hck chain
    · exact h.names_other (hother k' hk') (h.not_inGroup hck hk')
  · intro k' hk'
    rcases mem_middle_iff.1 hk' with rfl | hk'
    · exact h.source_absorb hk hc hck
    · exact h.source_other (hother k' hk') c
  · intro k' hk'
    rcases mem_middle_iff.1 hk' with rfl | hk'
    · exact h.least_absorb hk hc
    · exact h.least_other (hother k' hk') (h.not_inGroup hck hk')

/-- **An entry of a new key is a group of its own.** -/
theorem Grouped.push {done : List Certificate} {out : List KeyedCert} (h : Grouped lib done out)
    {c : Certificate} {fp : String} {chain : List Der} (hc : Parses lib c fp chain)
    (hnone : ∀ k ∈ out, k.key ≠ (c.listener, fp)) :
    Grouped lib (done ++ [c]) (out ++ [⟨c.listener, fp, chain, c⟩]) := by
  have hnot : ∀ k ∈ out, ¬InGroup lib c k := by
    intro k hk hin
    have hfp : fp = k.fingerprint := Except.ok.inj (hc.fingerprint.symm.trans hin.2)
    exact hnone k hk (by simp [KeyedCert.key, hin.1, hfp])
  have hself : InGroup lib c ⟨c.listener, fp, chain, c⟩ := ⟨rfl, hc.fingerprint⟩
  -- no entry read so far is in the new group
  have hfresh : ∀ c' ∈ done, ¬InGroup lib c' ⟨c.listener, fp, chain, c⟩ := by
    intro c' hc' hin
    obtain ⟨k, hk, hck⟩ := h.covers c' hc'
    exact hnone k hk (hck.key_eq hin)
  refine ⟨?_, ?_, h.parses_append hc, ?_, ?_, ?_⟩
  · rw [List.map_append, List.nodup_append]
    refine ⟨h.nodup, by simp, ?_⟩
    intro x hx y hy
    obtain ⟨k, hk, rfl⟩ := List.mem_map.1 hx
    simp only [List.map_cons, List.map_nil, List.mem_singleton] at hy
    rw [hy]
    exact hnone k hk
  · intro c' hc'
    rcases List.mem_append.1 hc' with hc' | hc'
    · obtain ⟨k, hk, hck⟩ := h.covers c' hc'
      exact ⟨k, by simp [hk], hck⟩
    · rw [List.mem_singleton.1 hc']
      exact ⟨_, by simp, hself⟩
  · intro k hk n
    rcases List.mem_append.1 hk with hk | hk
    · exact h.names_other hk (hnot k hk) n
    · rw [List.mem_singleton.1 hk]
      simp only [List.mem_append, List.mem_singleton]
      constructor
      · intro hn
        exact ⟨c, .inr rfl, hself, hn⟩
      · rintro ⟨c', hc' | hc', hin, hn⟩
        · exact absurd hin (hfresh c' hc')
        · exact hc' ▸ hn
  · intro k hk
    rcases List.mem_append.1 hk with hk | hk
    · exact h.source_other hk c
    · rw [List.mem_singleton.1 hk]
      exact ⟨c, by simp, hself, hc.chain, rfl⟩
  · intro k hk
    rcases List.mem_append.1 hk with hk | hk
    · exact h.least_other hk (hnot k hk)
    · intro c' hc' hin chain' hserved
      rw [List.mem_singleton.1 hk] at hin ⊢
      rcases List.mem_append.1 hc' with hc' | hc'
      · exact absurd hin (hfresh c' hc')
      · rw [List.mem_singleton.1 hc'] at hserved ⊢
        obtain rfl := Except.ok.inj (hc.chain.symm.trans hserved)
        exact le_refl _

/-- **Filing one entry keeps the groups.** -/
theorem Grouped.file {done : List Certificate} {out : List KeyedCert} (h : Grouped lib done out)
    {c : Certificate} {fp : String} {chain : List Der} (hc : Parses lib c fp chain) :
    Grouped lib (done ++ [c]) (fileCert c fp chain out) := by
  rcases fileCert_cases c fp chain out with ⟨before, k, after, rfl, hk, hfile⟩ | ⟨hnone, hfile⟩
  · simp only [KeyedCert.key, Prod.mk.injEq] at hk
    rw [hfile]
    rw [← hk.2] at hc
    exact h.join hc ⟨hk.1.symm, hc.fingerprint⟩
  · rw [hfile]
    exact h.push hc hnone

/-- The material a group sends is what it is filed by. -/
structure KeyedCert.Valid (lib : Library) (k : KeyedCert) : Prop where
  listener : k.cert.listener = k.listener
  parses : Parses lib k.cert k.fingerprint k.chain

theorem Grouped.valid {done : List Certificate} {out : List KeyedCert} (h : Grouped lib done out)
    {k : KeyedCert} (hk : k ∈ out) : k.Valid lib := by
  obtain ⟨c, -, hin, hserved, hsame⟩ := h.source k hk
  refine ⟨?_, ?_, ?_⟩
  · rw [← hsame]
    exact hin.1
  · rw [← hsame]
    exact hin.2
  · rw [← hsame]
    exact hserved

theorem keyedCertsFrom_ok {done certs : List Certificate} {out ks : List KeyedCert}
    (h : Grouped lib done out) (hok : keyedCertsFrom lib out certs = .ok ks) :
    Grouped lib (done ++ certs) ks := by
  induction certs generalizing done out with
  | nil =>
    obtain rfl := Except.ok.inj hok
    simpa using h
  | cons c certs ih =>
    rw [keyedCertsFrom] at hok
    cases hfp : fingerprint lib c with
    | error e => simp [hfp, bind, Except.bind] at hok
    | ok fp =>
      cases hchain : servedChain lib c with
      | error e => simp [hfp, hchain, bind, Except.bind] at hok
      | ok chain =>
        rw [hfp, hchain] at hok
        have hnext := ih (h.file ⟨hfp, hchain⟩) hok
        simpa using hnext

theorem grouped_nil : Grouped lib [] [] := ⟨by simp, by simp, by simp, by simp, by simp, by simp⟩

/-- **What the pass leaves**: the groups of the whole list. -/
theorem keyedCerts_ok {certs : List Certificate} {ks : List KeyedCert}
    (h : keyedCerts lib certs = .ok ks) : Grouped lib certs ks := by
  simpa using keyedCertsFrom_ok grouped_nil h

/-- The pass fails only on an entry that does not parse. -/
theorem keyedCertsFrom_isOk {certs : List Certificate} {out : List KeyedCert}
    (h : ∀ c ∈ certs, ∃ fp chain, Parses lib c fp chain) :
    ∃ ks, keyedCertsFrom lib out certs = .ok ks := by
  induction certs generalizing out with
  | nil => exact ⟨out, rfl⟩
  | cons c certs ih =>
    obtain ⟨fp, chain, hc⟩ := h c (by simp)
    obtain ⟨ks, hks⟩ := @ih (fileCert c fp chain out) fun c' hc' => h c' (by simp [hc'])
    refine ⟨ks, ?_⟩
    rw [keyedCertsFrom, hc.fingerprint, hc.chain]
    exact hks

theorem Grouped.parsesAll {certs : List Certificate} {ks : List KeyedCert}
    (h : Grouped lib certs ks) : ∀ c ∈ certs, ∃ fp chain, Parses lib c fp chain := by
  intro c hc
  obtain ⟨k, -, hin⟩ := h.covers c hc
  obtain ⟨chain, hchain⟩ := h.parses c hc
  exact ⟨k.fingerprint, chain, hin.2, hchain⟩

/-- The pass succeeds exactly when every entry parses. -/
theorem keyedCerts_isOk_iff {certs : List Certificate} :
    (∃ ks, keyedCerts lib certs = .ok ks) ↔ ∀ c ∈ certs, ∃ fp chain, Parses lib c fp chain :=
  ⟨fun ⟨_, h⟩ => (keyedCerts_ok h).parsesAll, keyedCertsFrom_isOk⟩

/-! ## The groups of some keys -/

variable (lib)

/-- The key an entry is filed under, when it parses. -/
def fileKey (c : Certificate) : Option (SocketAddr × String) :=
  match fingerprint lib c with
  | .ok fp => some (c.listener, fp)
  | .error _ => none

variable {lib}

theorem fileKey_eq_some {c : Certificate} {fp : String} (h : fingerprint lib c = .ok fp) :
    fileKey lib c = some (c.listener, fp) := by
  rw [fileKey, h]

theorem filter_fileCert (P : SocketAddr × String → Bool) (c : Certificate) (fp : String)
    (chain : List Der) (out : List KeyedCert) :
    (fileCert c fp chain out).filter (fun k => P k.key) =
      if P (c.listener, fp) then fileCert c fp chain (out.filter fun k => P k.key)
      else out.filter fun k => P k.key := by
  induction out with
  | nil =>
    have hkey : KeyedCert.key ⟨c.listener, fp, chain, c⟩ = (c.listener, fp) := rfl
    cases hP : P (c.listener, fp) <;> simp [fileCert, hkey, hP]
  | cons k out ih =>
    rw [fileCert]
    by_cases hk : k.key = (c.listener, fp)
    · rw [if_pos hk, List.filter_cons, List.filter_cons, key_absorb, hk]
      cases hP : P (c.listener, fp)
      · simp
      · simp [fileCert, hk]
    · rw [if_neg hk, List.filter_cons, List.filter_cons, ih]
      cases hPk : P k.key
      · simp
      · cases hP : P (c.listener, fp)
        · simp
        · simp [fileCert, hk]

/-- **The groups of some keys are the groups of their entries.** -/
theorem keyedCertsFrom_filter (P : SocketAddr × String → Bool) {certs : List Certificate}
    {out ks : List KeyedCert} (h : keyedCertsFrom lib out certs = .ok ks) :
    keyedCertsFrom lib (out.filter fun k => P k.key)
      (certs.filter fun c => (fileKey lib c).any P) = .ok (ks.filter fun k => P k.key) := by
  induction certs generalizing out with
  | nil =>
    obtain rfl := Except.ok.inj h
    rfl
  | cons c certs ih =>
    rw [keyedCertsFrom] at h
    cases hfp : fingerprint lib c with
    | error e => simp [hfp, bind, Except.bind] at h
    | ok fp =>
      cases hchain : servedChain lib c with
      | error e => simp [hfp, hchain, bind, Except.bind] at h
      | ok chain =>
        rw [hfp, hchain] at h
        have hrest := ih h
        rw [filter_fileCert] at hrest
        rw [List.filter_cons, fileKey_eq_some hfp, Option.any_some]
        cases hP : P (c.listener, fp)
        · simpa [hP] using hrest
        · rw [if_pos hP] at hrest
          rw [if_pos rfl, keyedCertsFrom, hfp, hchain]
          exact hrest

theorem keyedCerts_filter (P : SocketAddr × String → Bool) {certs : List Certificate}
    {ks : List KeyedCert} (h : keyedCerts lib certs = .ok ks) :
    keyedCerts lib (certs.filter fun c => (fileKey lib c).any P) =
      .ok (ks.filter fun k => P k.key) :=
  keyedCertsFrom_filter P h

end Library

end Translator

end SozuGateway
