import SozuGateway.PathRules
import SozuGateway.Builder.Lift

/-!
# Which paths meet

`paths_meet`, `outranks` and `lifted_copy` of `crates/builder/src/lib.rs`, against what the
compiled rules admit.

* `Reach` — the texts a base reaches: itself, and those that go on with a mark.  Two bases
  reach a common text exactly when one reaches the other (`reach_or_reach`).
* `PlainPath.reach_of_admits`, `PlainPath.admits_of_reach` — a path admits what its base
  reaches.
* `pathsMeet_iff_reach` — the check of the builder is that one base reaches the other.
* `paths_meet_iff` — it holds exactly when a request target matches both rules, and a copy
  matches nothing that either of the frontends it is made of does not.
-/

set_option autoImplicit false

namespace SozuGateway

namespace Builder

open Lib

/-! ## Bases and marks -/

section Reach

variable {α : Type*} {base base' marks marks' t : List α}

/-- The texts a base reaches: itself, and those that go on with one of the marks. -/
def Reach (base marks t : List α) : Prop := t = base ∨ ∃ m ∈ marks, base ++ [m] <+: t

theorem Reach.isPrefix (h : Reach base marks t) : base <+: t := by
  rcases h with rfl | ⟨m, -, hm⟩
  · exact List.prefix_refl _
  · exact (List.prefix_append base [m]).trans hm

/-- What goes on beyond a base reaches no further than the base itself. -/
theorem Reach.of_prefix (h : Reach base marks t) (hbase : base <+: base')
    (ht : base' <+: t) : Reach base marks base' := by
  by_cases heq : base' = base
  · exact .inl heq
  · have hlt : base.length < base'.length := by
      by_contra hle
      exact heq (hbase.eq_of_length_le (not_lt.1 hle)).symm
    rcases h with rfl | ⟨m, hm, hpre⟩
    · exact absurd ht.length_le (not_le.2 hlt)
    · exact .inr ⟨m, hm, List.prefix_of_prefix_length_le hpre ht (by simpa using hlt)⟩

/-- **Two bases that reach a common text reach one another**, one way or the other. -/
theorem reach_or_reach (h : Reach base marks t) (h' : Reach base' marks' t) :
    Reach base marks base' ∨ Reach base' marks' base := by
  rcases List.prefix_or_prefix_of_prefix h.isPrefix h'.isPrefix with hle | hle
  · exact .inl (h.of_prefix hle h'.isPrefix)
  · exact .inr (h'.of_prefix hle h.isPrefix)

theorem Reach.trans (h : Reach base marks base') (hsub : marks' ⊆ marks)
    (h' : Reach base' marks' t) : Reach base marks t := by
  rcases h with rfl | ⟨m, hm, hpre⟩
  · exact h'.imp id fun ⟨m, hm, hpre⟩ => ⟨m, hsub hm, hpre⟩
  · exact .inr ⟨m, hm, hpre.trans h'.isPrefix⟩

end Reach

/-! ## The base of a path -/

/-- The literal a path's rule starts with. -/
def pathBase : PathMatch → List Char
  | .exact v => v.toList
  | .pathPrefix v => trimEndSlashes v.toList
  | .regex _ => []

/-- What may follow the literal. -/
def pathMarks : PathMatch → List Char
  | .exact _ => ['?']
  | .pathPrefix _ => ['/', '?']
  | .regex _ => []

/-- A path the builder compiles itself: not a pattern, starting with a slash, on one line. -/
structure PlainPath (a : PathMatch) : Prop where
  literal : isRegexPath a = false
  slash : ∃ rest, (pathValue a).toList = '/' :: rest
  line : '\n' ∉ (pathValue a).toList

theorem pathBase_isPrefix {a : PathMatch} (ha : isRegexPath a = false) :
    pathBase a <+: (pathValue a).toList := by
  cases a with
  | exact v => exact List.prefix_refl _
  | pathPrefix v => exact List.rdropWhile_prefix _ _
  | regex v => cases ha

theorem PlainPath.line_base {a : PathMatch} (ha : PlainPath a) : '\n' ∉ pathBase a := fun h =>
  ha.line ((pathBase_isPrefix ha.literal).subset h)

/-- A base that is not empty starts with a slash. -/
theorem PlainPath.slash_base {a : PathMatch} (ha : PlainPath a) (hne : pathBase a ≠ []) :
    ['/'] <+: pathBase a := by
  obtain ⟨rest, hrest⟩ := ha.slash
  obtain ⟨tail, htail⟩ := pathBase_isPrefix ha.literal
  cases hbase : pathBase a with
  | nil => exact absurd hbase hne
  | cons c cs =>
    rw [hbase, hrest, List.cons_append, List.cons.injEq] at htail
    exact ⟨cs, by rw [htail.1]; rfl⟩

/-- Only the root has an empty base. -/
theorem PlainPath.eq_root {a : PathMatch} (ha : PlainPath a) (hbase : pathBase a = []) :
    a.sozuRule = .plainPrefix "/" := by
  cases a with
  | exact v =>
    obtain ⟨rest, hrest⟩ := ha.slash
    have hnil : v.toList = [] := hbase
    rw [show (pathValue (.exact v)).toList = v.toList from rfl, hnil] at hrest
    cases hrest
  | pathPrefix v =>
    have hnil : trimEndSlashes v.toList = [] := hbase
    simp [PathMatch.sozuRule, hnil]
  | regex v => cases ha.literal

/-! ## What a path admits -/

/-- The marks are single bytes. -/
theorem pathMarks_byte (a : PathMatch) : ∀ m ∈ pathMarks a, ∃ b, String.utf8EncodeChar m = [b] := by
  have hall : ∀ m ∈ ['/', '?'], ∃ b, String.utf8EncodeChar m = [b] := by
    intro m hm
    rcases List.mem_pair.1 hm with rfl | rfl
    · exact ⟨47, by decide⟩
    · exact ⟨63, by decide⟩
  intro m hm
  cases a with
  | exact v => exact hall m (List.mem_cons_of_mem _ hm)
  | pathPrefix v => exact hall m hm
  | regex v => cases hm

/-- What a base reaches as a text it reaches as bytes, and the other way around. -/
theorem reach_utf8_iff {base t marks : List Char}
    (hmarks : ∀ m ∈ marks, ∃ b, String.utf8EncodeChar m = [b]) :
    Reach (utf8 base) (utf8 marks) (utf8 t) ↔ Reach base marks t := by
  constructor
  · rintro (heq | ⟨b, hb, hpre⟩)
    · exact .inl (utf8_injective heq)
    · obtain ⟨m, hm, hbm⟩ := List.mem_flatMap.1 hb
      obtain ⟨d, hd⟩ := hmarks m hm
      obtain rfl : b = d := by simpa [hd] using hbm
      refine .inr ⟨m, hm, prefix_of_utf8_prefix ?_⟩
      rwa [utf8_append, utf8_cons, hd]
  · rintro (rfl | ⟨m, hm, r, rfl⟩)
    · exact .inl rfl
    · obtain ⟨b, hb⟩ := hmarks m hm
      refine .inr ⟨b, List.mem_flatMap.2 ⟨m, hm, by simp [hb]⟩, ?_⟩
      exact ⟨utf8 r, by simp [utf8_cons, hb]⟩

section Admission

variable {a : PathMatch} {anchored : Bool} {t : List UInt8}

/-- A path with a base admits what extends it. -/
theorem admits_iff_extends (ha : isRegexPath a = false) (hbase : pathBase a ≠ []) :
    a.sozuRule.Admits anchored t ↔ Extends (pathBase a) (pathMarks a) t := by
  cases a with
  | regex v => cases ha
  | exact v => exact admits_exact
  | pathPrefix v =>
    have hroot : trimEndSlashes v.toList ≠ [] := hbase
    rw [admits_pathPrefix, if_neg hroot]
    exact Iff.rfl

/-- On one line, what extends a base is what its bytes reach. -/
theorem extends_iff_reach (ht : lineFeed ∉ t) :
    Extends (pathBase a) (pathMarks a) t ↔ Reach (utf8 (pathBase a)) (utf8 (pathMarks a)) t := by
  rw [extends_iff ht]
  refine or_congr_right ⟨?_, ?_⟩
  · rintro ⟨m, hm, hpre⟩
    obtain ⟨b, hb⟩ := pathMarks_byte a m hm
    refine ⟨b, List.mem_flatMap.2 ⟨m, hm, by simp [hb]⟩, ?_⟩
    rwa [utf8_append, utf8_cons, hb] at hpre
  · rintro ⟨b, hb, hpre⟩
    obtain ⟨m, hm, hbm⟩ := List.mem_flatMap.1 hb
    obtain ⟨d, hd⟩ := pathMarks_byte a m hm
    obtain rfl : b = d := by simpa [hd] using hbm
    refine ⟨m, hm, ?_⟩
    rwa [utf8_append, utf8_cons, hd]

/-- A path with a base admits exactly what its bytes reach. -/
theorem admits_iff_reach (ha : isRegexPath a = false) (hbase : pathBase a ≠ [])
    (ht : lineFeed ∉ t) :
    a.sozuRule.Admits anchored t ↔ Reach (utf8 (pathBase a)) (utf8 (pathMarks a)) t :=
  (admits_iff_extends ha hbase).trans (extends_iff_reach ht)

/-- What a path admits its base reaches. -/
theorem PlainPath.reach_of_admits (ha : PlainPath a) (ht : lineFeed ∉ t)
    (h : a.sozuRule.Admits anchored t) : Reach (utf8 (pathBase a)) (utf8 (pathMarks a)) t := by
  by_cases hbase : pathBase a = []
  · rw [ha.eq_root hbase] at h
    have hslash : (47 : UInt8) ∈ utf8 (pathMarks a) := by
      cases a with
      | exact v =>
        have hroot := ha.eq_root hbase
        simp [PathMatch.sozuRule] at hroot
      | pathPrefix v =>
        show (47 : UInt8) ∈ utf8 ['/', '?']
        decide
      | regex v => cases ha.literal
    exact .inr ⟨47, hslash, by rw [hbase]; exact h⟩
  · exact (admits_iff_reach ha.literal hbase ht).1 h

/-- A path admits what its base reaches, when it starts with a slash. -/
theorem PlainPath.admits_of_reach (ha : PlainPath a) (ht : lineFeed ∉ t)
    (h : Reach (utf8 (pathBase a)) (utf8 (pathMarks a)) t) (hslash : utf8 ['/'] <+: t) :
    a.sozuRule.Admits anchored t := by
  by_cases hbase : pathBase a = []
  · rw [ha.eq_root hbase]
    exact hslash
  · exact (admits_iff_reach ha.literal hbase ht).2 h

/-- What a path admits starts with a slash. -/
theorem PlainPath.slash_of_admits (ha : PlainPath a) (ht : lineFeed ∉ t)
    (h : a.sozuRule.Admits anchored t) : utf8 ['/'] <+: t := by
  by_cases hbase : pathBase a = []
  · rw [ha.eq_root hbase] at h
    exact h
  · obtain ⟨rest, hrest⟩ := ha.slash_base hbase
    have hpre : utf8 ['/'] <+: utf8 (pathBase a) := ⟨utf8 rest, by rw [← hrest, utf8_append]⟩
    exact hpre.trans (ha.reach_of_admits ht h).isPrefix

/-- A base stands for no line feed. -/
theorem PlainPath.lineFeed_notMem (ha : PlainPath a) : lineFeed ∉ utf8 (pathBase a) := by
  intro h
  obtain ⟨c, hc, hmem⟩ := List.mem_flatMap.1 h
  have hcode : c.toNat = '\n'.toNat := toNat_of_mem_utf8Char (by decide) hmem
  exact ha.line_base (Char.toNat_inj.1 hcode ▸ hc)

end Admission

/-! ## The builder's check -/

theorem prefixBody_toList (path : String) : (prefixBody path).toList = trimEndSlashes path.toList :=
  String.toList_ofList

/-- A text goes on with a mark after another. -/
theorem any_stripStart_iff {t base : String} {m : Char} {mark : String}
    (hmark : mark.toList = [m]) :
    ((stripStart t base).any fun rest => startsWithText rest mark) = true ↔
      base.toList ++ [m] <+: t.toList := by
  rw [Option.any_eq_true]
  constructor
  · rintro ⟨rest, hrest, hstart⟩
    obtain rfl := stripStart_eq_some.1 hrest
    obtain ⟨after, hafter⟩ := startsWithText_iff.1 hstart
    exact ⟨after, by rw [String.toList_append, hafter, hmark, List.append_assoc]⟩
  · rintro ⟨after, hafter⟩
    refine ⟨String.ofList (m :: after), stripStart_eq_some.2 ?_, startsWithText_iff.2 ⟨after, ?_⟩⟩
    · apply String.toList_inj.1
      rw [← hafter, String.toList_append, String.toList_ofList, List.append_assoc,
        List.singleton_append]
    · rw [String.toList_ofList, hmark, List.singleton_append]

theorem queried_iff {target exact : String} :
    queried target exact = true ↔ exact.toList ++ ['?'] <+: target.toList :=
  any_stripStart_iff rfl

/-- An element-boundary prefix covers what its base reaches, and the root everything. -/
theorem prefixCovers_iff {path target : String} :
    prefixCovers path target = true ↔ trimEndSlashes path.toList = [] ∨
      Reach (trimEndSlashes path.toList) ['/', '?'] target.toList := by
  have hslash : ((stripStart target (prefixBody path)).any fun rest => startsWithText rest "/") =
      true ↔ (prefixBody path).toList ++ ['/'] <+: target.toList := any_stripStart_iff rfl
  have hquery : ((stripStart target (prefixBody path)).any fun rest => startsWithText rest "?") =
      true ↔ (prefixBody path).toList ++ ['?'] <+: target.toList := any_stripStart_iff rfl
  have hself : ((stripStart target (prefixBody path)).any fun rest => decide (rest = "")) = true ↔
      target = prefixBody path := by
    rw [Option.any_eq_true]
    constructor
    · rintro ⟨rest, hrest, hempty⟩
      obtain rfl := of_decide_eq_true hempty
      simpa using stripStart_eq_some.1 hrest
    · rintro rfl
      exact ⟨"", stripStart_eq_some.2 (by simp), decide_eq_true rfl⟩
  have hroot : prefixBody path = "" ↔ trimEndSlashes path.toList = [] := by
    rw [← prefixBody_toList]
    exact String.toList_eq_nil_iff.symm
  unfold prefixCovers Reach
  rw [Bool.or_eq_true, decide_eq_true_iff, hroot, ← prefixBody_toList, String.toList_inj]
  refine or_congr_right ?_
  cases hstrip : stripStart target (prefixBody path) <;> simp_all [or_assoc]

/-- The root reaches every plain path. -/
theorem PlainPath.reach_root {a : PathMatch} (ha : PlainPath a) :
    Reach [] ['/', '?'] (pathBase a) := by
  by_cases hbase : pathBase a = []
  · exact .inl hbase
  · exact .inr ⟨'/', List.mem_cons_self, ha.slash_base hbase⟩

theorem prefixCovers_base_iff {b : PathMatch} (hb : PlainPath b) {path target : String}
    (htarget : target.toList = pathBase b) :
    prefixCovers path target = true ↔
      Reach (trimEndSlashes path.toList) ['/', '?'] (pathBase b) := by
  rw [prefixCovers_iff, htarget, or_iff_right_iff_imp]
  intro hroot
  rw [hroot]
  exact hb.reach_root

/-- A text is another's with a query, or the text itself. -/
theorem reach_query_iff {base t : List Char} :
    Reach base ['?'] t ↔ t = base ∨ base ++ ['?'] <+: t := by
  simp [Reach]

/-- An exact path and a prefix meet. -/
theorem exact_meets_prefix_iff {exact path : String} (hexact : PlainPath (.exact exact)) :
    (prefixCovers path exact || queried (prefixBody path) exact) = true ↔
      Reach exact.toList ['?'] (trimEndSlashes path.toList) ∨
        Reach (trimEndSlashes path.toList) ['/', '?'] exact.toList := by
  rw [Bool.or_eq_true, prefixCovers_base_iff hexact rfl, queried_iff, prefixBody_toList,
    reach_query_iff]
  constructor
  · rintro (hcovers | hquery)
    · exact .inr hcovers
    · exact .inl (.inr hquery)
  · rintro ((heq | hquery) | hcovers)
    · exact .inl (.inl heq.symm)
    · exact .inr hquery
    · exact .inl hcovers

/-- **The builder's check is that one base reaches the other.** -/
theorem pathsMeet_iff_reach {a b : PathMatch} (ha : PlainPath a) (hb : PlainPath b) :
    pathsMeet a b = true ↔ Reach (pathBase a) (pathMarks a) (pathBase b) ∨
      Reach (pathBase b) (pathMarks b) (pathBase a) := by
  cases a with
  | regex v => cases ha.literal
  | exact x =>
    cases b with
    | regex w => cases hb.literal
    | pathPrefix y => exact exact_meets_prefix_iff ha
    | exact y =>
      show (decide (x = y) || queried x y || queried y x) = true ↔
        Reach x.toList ['?'] y.toList ∨ Reach y.toList ['?'] x.toList
      rw [Bool.or_eq_true, Bool.or_eq_true, decide_eq_true_iff, queried_iff, queried_iff,
        reach_query_iff, reach_query_iff, String.toList_inj, String.toList_inj]
      tauto
  | pathPrefix x =>
    cases b with
    | regex w => cases hb.literal
    | exact y => exact (exact_meets_prefix_iff hb).trans or_comm
    | pathPrefix y =>
      show (prefixCovers x (prefixBody y) || prefixCovers y (prefixBody x)) = true ↔ _
      rw [Bool.or_eq_true, prefixCovers_base_iff hb (prefixBody_toList y),
        prefixCovers_base_iff ha (prefixBody_toList x)]
      exact Iff.rfl

/-! ## Meeting on a request -/

section Meeting

variable {a b : PathMatch} {anchored : Bool}

/-- The base of a path, or the root itself: a target the path admits. -/
theorem PlainPath.admits_base (ha : PlainPath a) (hbase : pathBase a ≠ []) :
    a.sozuRule.Admits anchored (utf8 (pathBase a)) := by
  refine ha.admits_of_reach ha.lineFeed_notMem (.inl rfl) ?_
  obtain ⟨rest, hrest⟩ := ha.slash_base hbase
  exact ⟨utf8 rest, by rw [← hrest, utf8_append]⟩

/-- A path admits the base of one it reaches. -/
theorem PlainPath.exists_of_reach (ha : PlainPath a) (hb : PlainPath b)
    (h : Reach (pathBase a) (pathMarks a) (pathBase b)) :
    ∃ t, lineFeed ∉ t ∧ a.sozuRule.Admits anchored t ∧ b.sozuRule.Admits anchored t := by
  by_cases hbase : pathBase b = []
  · -- both are the root
    have hroot : pathBase a = [] := List.prefix_nil.1 (hbase ▸ h.isPrefix)
    refine ⟨utf8 ['/'], by decide, ?_, ?_⟩
    · rw [ha.eq_root hroot]
      exact List.prefix_refl _
    · rw [hb.eq_root hbase]
      exact List.prefix_refl _
  · have hadmits : b.sozuRule.Admits anchored (utf8 (pathBase b)) := hb.admits_base hbase
    refine ⟨utf8 (pathBase b), hb.lineFeed_notMem, ?_, hadmits⟩
    exact ha.admits_of_reach hb.lineFeed_notMem ((reach_utf8_iff (pathMarks_byte a)).2 h)
      (hb.slash_of_admits hb.lineFeed_notMem hadmits)

/-- **The check holds exactly when a request target matches both rules.** -/
theorem pathsMeet_iff_exists (ha : PlainPath a) (hb : PlainPath b) :
    pathsMeet a b = true ↔
      ∃ t, lineFeed ∉ t ∧ a.sozuRule.Admits anchored t ∧ b.sozuRule.Admits anchored t := by
  rw [pathsMeet_iff_reach ha hb]
  constructor
  · rintro (h | h)
    · exact ha.exists_of_reach hb h
    · obtain ⟨t, ht, hadmits, hadmits'⟩ : ∃ t, lineFeed ∉ t ∧ b.sozuRule.Admits anchored t ∧
          a.sozuRule.Admits anchored t := hb.exists_of_reach ha h
      exact ⟨t, ht, hadmits', hadmits⟩
  · rintro ⟨t, ht, hadmits, hadmits'⟩
    have hmeet := reach_or_reach (ha.reach_of_admits ht hadmits) (hb.reach_of_admits ht hadmits')
    exact hmeet.imp (reach_utf8_iff (pathMarks_byte a)).1 (reach_utf8_iff (pathMarks_byte b)).1

end Meeting

/-! ## What a copy matches -/

/-- A path with a base admits single lines only. -/
theorem PlainPath.lineFeed_notMem_of_admits {a : PathMatch} (ha : PlainPath a)
    (hbase : pathBase a ≠ []) {anchored : Bool} {t : List UInt8}
    (h : a.sozuRule.Admits anchored t) : lineFeed ∉ t := by
  rcases (admits_iff_extends ha.literal hbase).1 h with rfl | ⟨m, hm, rest, rfl, hrest⟩
  · exact ha.lineFeed_notMem
  · obtain ⟨b, hb⟩ := pathMarks_byte a m hm
    have hmark : lineFeed ∉ String.utf8EncodeChar m := by
      intro hmem
      have hcode : m.toNat = '\n'.toNat := toNat_of_mem_utf8Char (by decide) hmem
      obtain rfl := Char.toNat_inj.1 hcode
      cases a <;> simp [pathMarks] at hm
    rw [utf8_append, utf8_cons, utf8_nil, List.append_nil]
    simp only [List.mem_append, not_or]
    exact ⟨⟨ha.lineFeed_notMem, hmark⟩, hrest⟩

/-- **A path reached by another matches nothing the other does not.** -/
theorem admits_of_reach_base {a b : PathMatch} (ha : PlainPath a) (hb : PlainPath b)
    (hreach : Reach (pathBase a) (pathMarks a) (pathBase b)) (hmarks : pathMarks b ⊆ pathMarks a)
    {anchored : Bool} {t : List UInt8} (h : b.sozuRule.Admits anchored t) :
    a.sozuRule.Admits anchored t := by
  by_cases hbase : pathBase b = []
  · -- both are the root
    have hroot : pathBase a = [] := List.prefix_nil.1 (hbase ▸ hreach.isPrefix)
    rwa [ha.eq_root hroot, ← hb.eq_root hbase]
  · have ht := hb.lineFeed_notMem_of_admits hbase h
    have hbytes := (reach_utf8_iff (pathMarks_byte a)).2 hreach
    refine ha.admits_of_reach ht (hbytes.trans (fun x hx => ?_) (hb.reach_of_admits ht h))
      (hb.slash_of_admits ht h)
    obtain ⟨m, hm, hx⟩ := List.mem_flatMap.1 hx
    exact List.mem_flatMap.2 ⟨m, hmarks hm, hx⟩

/-- A base that reaches another over a query has the query in it. -/
theorem query_mem_of_reach {base t : List Char} (h : Reach base ['?'] t) (hne : t ≠ base) :
    '?' ∈ t := by
  rcases reach_query_iff.1 h with heq | ⟨rest, rfl⟩
  · exact absurd heq hne
  · simp

/-- **The path of a plain route that outranks a header match is one its path reaches.** -/
theorem reach_of_outranks {u p : Frontend} (hu : PlainPath u.path) (hp : PlainPath p.path)
    (hquery : '?' ∉ (pathValue p.path).toList) (h : outranks u p = true) :
    Reach (pathBase p.path) (pathMarks p.path) (pathBase u.path) ∧
      pathMarks u.path ⊆ pathMarks p.path := by
  unfold outranks at h
  rw [Bool.and_eq_true, Bool.and_eq_true, decide_eq_true_iff] at h
  obtain ⟨⟨-, hmeet⟩, hrank⟩ := h
  have hmeet := (pathsMeet_iff_reach hu hp).1 hmeet
  have hnotLt : pathPrecedence u p ≠ .lt := by
    intro hlt
    rw [gwPrecedence, hlt] at hrank
    cases hrank
  have hbaseQuery : '?' ∉ pathBase p.path := fun hmem =>
    hquery ((pathBase_isPrefix hp.literal).subset hmem)
  cases hpath : u.path with
  | regex v =>
    have hliteral := hu.literal
    rw [hpath] at hliteral
    cases hliteral
  | exact x =>
    -- an exact path reaches only texts with a query, which `p` has none of
    have hreach : Reach (pathBase p.path) (pathMarks p.path) x.toList := by
      rw [hpath] at hmeet
      rcases hmeet with hback | hreach
      · by_cases heq : pathBase p.path = x.toList
        · exact .inl heq.symm
        · exact absurd (query_mem_of_reach hback heq) hbaseQuery
      · exact hreach
    refine ⟨hreach, ?_⟩
    intro m hm
    obtain rfl := List.mem_singleton.1 hm
    cases hpath' : p.path with
    | exact y => exact List.mem_singleton_self _
    | pathPrefix y => exact List.mem_cons_of_mem _ (List.mem_singleton_self _)
    | regex y =>
      have hliteral := hp.literal
      rw [hpath'] at hliteral
      cases hliteral
  | pathPrefix x =>
    cases hpath' : p.path with
    | regex y =>
      have hliteral := hp.literal
      rw [hpath'] at hliteral
      cases hliteral
    | exact y =>
      rw [pathPrecedence, hpath, hpath'] at hnotLt
      exact absurd rfl hnotLt
    | pathPrefix y =>
      rw [hpath, hpath'] at hmeet
      refine ⟨?_, fun m hm => hm⟩
      rcases hmeet with hback | hreach
      · -- the body of `u` is at least as long as that of `p`
        have hlength : (utf8 (trimEndSlashes y.toList)).length ≤
            (utf8 (trimEndSlashes x.toList)).length := by
          rw [pathPrecedence, hpath, hpath'] at hnotLt
          have hsize := not_lt.1 fun hlt => hnotLt (compare_lt_iff_lt.2 hlt)
          rwa [← length_utf8, ← length_utf8, prefixBody_toList, prefixBody_toList] at hsize
        have hbytes := ((reach_utf8_iff (pathMarks_byte (.pathPrefix x))).2 hback).isPrefix
        exact .inl (utf8_injective (hbytes.eq_of_length_le hlength))
      · exact hreach

/-- The method of a frontend admits that of a request. -/
def MethodAdmits (method : Option String) (m : String) : Prop := ∀ x ∈ method, x = m

/-- A copy is as strict on the method as the frontends it is made of. -/
theorem methodAdmits_liftedCopy {u p : Frontend} (hmeet : methodsMeet u p = true) {m : String}
    (h : MethodAdmits (liftedCopy u p).method m) :
    MethodAdmits p.method m ∧ MethodAdmits u.method m := by
  have hcopy : MethodAdmits (u.method.or p.method) m := h
  cases hu : u.method with
  | none =>
    rw [hu, Option.none_or] at hcopy
    exact ⟨hcopy, fun x hx => absurd hx (by simp)⟩
  | some x =>
    rw [hu, Option.some_or] at hcopy
    refine ⟨fun y hy => ?_, hcopy⟩
    have hxy : x = y := by
      rw [methodsMeet, hu, show p.method = some y from hy] at hmeet
      simpa using hmeet
    exact hxy ▸ hcopy x rfl

/-- **The check of overlap is exact, and a copy never widens**: two plain paths meet exactly
when some request target matches both their rules, and the copy of a frontend that outranks
another matches a target and a method only where both frontends do. -/
theorem paths_meet_iff (anchored : Bool) :
    (∀ a b : PathMatch, PlainPath a → PlainPath b →
      (pathsMeet a b = true ↔
        ∃ t, lineFeed ∉ t ∧ a.sozuRule.Admits anchored t ∧ b.sozuRule.Admits anchored t)) ∧
    ∀ u p : Frontend, PlainPath u.path → PlainPath p.path → '?' ∉ (pathValue p.path).toList →
      outranks u p = true → ∀ t m,
        (liftedCopy u p).path.sozuRule.Admits anchored t →
          MethodAdmits (liftedCopy u p).method m →
            (p.path.sozuRule.Admits anchored t ∧ MethodAdmits p.method m) ∧
              (u.path.sozuRule.Admits anchored t ∧ MethodAdmits u.method m) := by
  refine ⟨fun a b ha hb => pathsMeet_iff_exists ha hb,
    fun u p hu hp hquery houtranks t m htarget hmethod => ?_⟩
  have hmethods : methodsMeet u p = true := by
    unfold outranks at houtranks
    exact (Bool.and_eq_true_iff.1 (Bool.and_eq_true_iff.1 houtranks).1).1
  obtain ⟨hreach, hmarks⟩ := reach_of_outranks hu hp hquery houtranks
  obtain ⟨hmethod, hmethod'⟩ := methodAdmits_liftedCopy hmethods hmethod
  exact ⟨⟨admits_of_reach_base hp hu hreach hmarks htarget, hmethod⟩, htarget, hmethod'⟩

/-- `/a` meets the prefix `/`, and its copy above a header match on the prefix admits `/a`
where the prefix does. -/
theorem paths_meet_iff_root :
    (∃ t, lineFeed ∉ t ∧ (PathMatch.exact "/a").sozuRule.Admits true t ∧
      (PathMatch.pathPrefix "/").sozuRule.Admits true t) ∧
    (PathMatch.pathPrefix "/").sozuRule.Admits true [47, 97] := by
  have hexact : PlainPath (.exact "/a") := ⟨rfl, ⟨['a'], rfl⟩, by decide⟩
  have hprefix : PlainPath (.pathPrefix "/") := ⟨rfl, ⟨[], rfl⟩, by decide⟩
  refine ⟨((paths_meet_iff true).1 _ _ hexact hprefix).1 (by decide), ?_⟩
  have hcopy := (paths_meet_iff true).2
    ⟨"h", .exact "/a", none, none, true, .v4 ⟨0, 0, 0, 0⟩ 443, {}, []⟩
    ⟨"h", .pathPrefix "/", none, none, true, .v4 ⟨0, 0, 0, 0⟩ 443, {}, [⟨"x", .exact "1"⟩]⟩
    hexact hprefix (by decide) (by decide) [47, 97] "GET" (admits_exact.2 (.inl (by decide)))
    (fun x hx => absurd hx (by simp [liftedCopy]))
  exact hcopy.1.1

end Builder

end SozuGateway
