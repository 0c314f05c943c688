import SozuGateway.Lib.Tarjan

/-!
# What Tarjan's search finds

* `Frame` — an open node with the nodes finished since, which lie above it on the stack.
* `State.Core` — the invariant of the search: the stack is the frames, and what is off it is
  closed and sorted into components.
* `Core.visit`, `Core.lowered`, `Core.merge`, `Core.pop` — what one turn of the loop does to it.
* `components_spec` — two nodes have the same component exactly when each reaches the other.
-/

set_option autoImplicit false

namespace SozuGateway
namespace Lib
namespace Tarjan

open Relation

/-- An edge of the graph. -/
def Edge (edges : Graph) (u v : ℕ) : Prop := v ∈ edges.targets u

/-- A node reaches another along edges. -/
abbrev Reaches (edges : Graph) : ℕ → ℕ → Prop := ReflTransGen (Edge edges)

/-- Every edge leads to a node of the graph. -/
def Graph.WellFormed (edges : Graph) : Prop :=
  ∀ u, ∀ v ∈ edges.targets u, v < edges.length

/-- An open node, and the finished nodes above it on the stack. -/
structure Frame where
  node : ℕ
  above : List ℕ

/-- The stretch of the stack of a frame. -/
def Frame.block (f : Frame) : List ℕ := f.above ++ [f.node]

theorem Frame.mem_block {f : Frame} {v : ℕ} : v ∈ f.block ↔ v ∈ f.above ∨ v = f.node := by
  simp [block]

namespace State

/-- The number of a node that was seen. -/
def number (s : State) (v : ℕ) : ℕ := (s.index v).getD 0

/-- An edge that was followed: its target has a component, or lies on the stack no lower than
the low point of its node. -/
def Settled (s : State) (x w : ℕ) : Prop :=
  s.component w ≠ none ∨ (w ∈ s.stack ∧ s.low x ≤ s.number w)

/-- **The stack is the frames, and what is off it is closed and in its component.** -/
structure Core (edges : Graph) (s : State) (frames : List Frame) : Prop where
  stack : s.stack = frames.flatMap Frame.block
  onStack : ∀ v, s.onStack v = true ↔ v ∈ s.stack
  seen : ∀ v, s.index v ≠ none ↔ v ∈ s.stack ∨ s.component v ≠ none
  fresh : ∀ v ∈ s.stack, s.number v < s.nextIndex
  sorted : s.stack.Pairwise fun a b => s.number b < s.number a
  unassigned : ∀ v ∈ s.stack, s.component v = none
  low_le : ∀ v ∈ s.stack, s.low v ≤ s.number v
  low_mem : ∀ v ∈ s.stack, ∃ w ∈ s.stack, s.number w = s.low v ∧ Reaches edges v w
  finished : ∀ f ∈ frames, ∀ x ∈ f.above, s.low x < s.number x ∧ s.low f.node ≤ s.low x ∧
    Reaches edges f.node x ∧ ∀ w ∈ edges.targets x, s.Settled x w
  closed : ∀ v c, s.component v = some c →
    c < s.components ∧ ∀ w ∈ edges.targets v, s.component w ≠ none
  exact : ∀ u v, s.component u ≠ none → s.component v ≠ none →
    (s.component u = s.component v ↔ Reaches edges u v ∧ Reaches edges v u)
  falling : ∀ v c, s.component v = some c → ∀ w ∈ edges.targets v, ∀ d, s.component w = some d →
    d ≤ c
  used : ∀ c < s.components, ∃ v, s.component v = some c

/-- The low point of a node brought down to a number. -/
def lowered (s : State) (node i : ℕ) : State :=
  { s with low := Function.update s.low node (min (s.low node) i) }

/-- The top of the stack taken off as a component. -/
def popped (s : State) (block stack : List ℕ) : State :=
  { s with
    stack := stack
    onStack := fun v => if v ∈ block then false else s.onStack v
    component := fun v => if v ∈ block then some s.components else s.component v
    components := s.components + 1 }

variable {edges : Graph} {s : State} {frames rest : List Frame} {f g : Frame}

theorem core_empty (edges : Graph) : Core edges {} [] where
  stack := rfl
  onStack v := by simp
  seen v := by simp
  fresh v hv := absurd hv List.not_mem_nil
  sorted := List.Pairwise.nil
  unassigned v hv := absurd hv List.not_mem_nil
  low_le v hv := absurd hv List.not_mem_nil
  low_mem v hv := absurd hv List.not_mem_nil
  finished f hf := absurd hf List.not_mem_nil
  closed v c hc := by cases hc
  exact u v hu := absurd rfl hu
  falling v c hc := by cases hc
  used c hc := absurd hc (Nat.not_lt_zero c)

namespace Core

theorem node_mem (h : Core edges s frames) (hf : f ∈ frames) : f.node ∈ s.stack := by
  rw [h.stack]
  exact List.mem_flatMap.2 ⟨f, hf, Frame.mem_block.2 (.inr rfl)⟩

theorem above_mem (h : Core edges s frames) (hf : f ∈ frames) {x : ℕ} (hx : x ∈ f.above) :
    x ∈ s.stack := by
  rw [h.stack]
  exact List.mem_flatMap.2 ⟨f, hf, Frame.mem_block.2 (.inl hx)⟩

theorem nodup (h : Core edges s frames) : s.stack.Nodup :=
  h.sorted.imp fun hlt heq => absurd (congrArg s.number heq) (Nat.ne_of_gt hlt)

/-- A finished node is no open one. -/
theorem ne_of_above (h : Core edges s frames) (hf : f ∈ frames) (hg : g ∈ frames) {x : ℕ}
    (hx : x ∈ g.above) : x ≠ f.node := by
  have hnodup := h.nodup
  rw [h.stack, List.nodup_flatMap] at hnodup
  rintro rfl
  by_cases hfg : f = g
  · subst hfg
    have hblock := hnodup.1 f hf
    rw [Frame.block, List.nodup_append] at hblock
    exact hblock.2.2 _ hx _ (List.mem_singleton_self _) rfl
  · have hsymm : Std.Symm (Function.onFun List.Disjoint Frame.block) := ⟨fun _ _ hab => hab.symm⟩
    have hapart := hnodup.2.forall hf hg hfg
    exact hapart (Frame.mem_block.2 (.inr rfl)) (Frame.mem_block.2 (.inl hx))

/-- A node without a number is off the stack, and has no component. -/
theorem notMem_of_unseen (h : Core edges s frames) {t : ℕ} (ht : s.index t = none) :
    t ∉ s.stack ∧ s.component t = none := by
  have hseen := mt (h.seen t).2 (not_not.2 ht)
  rw [not_or, not_not] at hseen
  exact hseen

/-! ### A new node -/

/-- A node off the stack keeps its number and low point when another is opened. -/
theorem visit_of_ne (s : State) {t v : ℕ} (hv : v ≠ t) :
    (s.visit t).number v = s.number v ∧ (s.visit t).low v = s.low v := by
  constructor <;> simp [number, State.visit, hv]

theorem visit_self (s : State) (t : ℕ) :
    (s.visit t).number t = s.nextIndex ∧ (s.visit t).low t = s.nextIndex := by
  simp [number, State.visit]

/-- An edge that was followed stays so when a node is opened. -/
theorem settled_visit (h : Core edges s frames) {t : ℕ} (ht : s.index t = none) {x w : ℕ}
    (hx : x ∈ s.stack) (hset : s.Settled x w) : (s.visit t).Settled x w := by
  have hnot := (h.notMem_of_unseen ht).1
  have hne : ∀ v ∈ s.stack, v ≠ t := fun v hv heq => hnot (heq ▸ hv)
  refine hset.imp id fun ⟨hw, hle⟩ => ⟨List.mem_cons_of_mem _ hw, ?_⟩
  rwa [(visit_of_ne s (hne x hx)).2, (visit_of_ne s (hne w hw)).1]

/-- **Opening a node puts a frame of its own on the stack.** -/
theorem visit (h : Core edges s frames) {t : ℕ} (ht : s.index t = none) :
    Core edges (s.visit t) (⟨t, []⟩ :: frames) := by
  obtain ⟨hnot, hcomponent⟩ := h.notMem_of_unseen ht
  have hne : ∀ v ∈ s.stack, v ≠ t := fun v hv heq => hnot (heq ▸ hv)
  have hnumber : ∀ v ∈ s.stack, (s.visit t).number v = s.number v := fun v hv =>
    (visit_of_ne s (hne v hv)).1
  have hlow : ∀ v ∈ s.stack, (s.visit t).low v = s.low v := fun v hv =>
    (visit_of_ne s (hne v hv)).2
  refine ⟨?_, ?_, ?_, ?_, ?_, ?_, ?_, ?_, ?_, h.closed, h.exact, h.falling, h.used⟩
  · show t :: s.stack = _
    rw [h.stack]
    rfl
  · intro v
    show Function.update s.onStack t true v = true ↔ v ∈ t :: s.stack
    by_cases hv : v = t
    · simp [hv]
    · simp [hv, h.onStack v]
  · intro v
    show Function.update s.index t (some s.nextIndex) v ≠ none ↔
      v ∈ t :: s.stack ∨ s.component v ≠ none
    by_cases hv : v = t
    · simp [hv]
    · rw [Function.update_of_ne hv, h.seen v]
      simp [hv]
  · intro v hv
    show (s.visit t).number v < s.nextIndex + 1
    rcases List.mem_cons.1 hv with rfl | hv
    · rw [(visit_self s v).1]
      exact Nat.lt_succ_self _
    · rw [hnumber v hv]
      exact Nat.lt_succ_of_lt (h.fresh v hv)
  · refine List.pairwise_cons.2 ⟨fun v hv => ?_, h.sorted.imp_of_mem fun ha hb hlt => ?_⟩
    · rw [(visit_self s t).1, hnumber v hv]
      exact h.fresh v hv
    · rwa [hnumber _ ha, hnumber _ hb]
  · intro v hv
    rcases List.mem_cons.1 hv with rfl | hv
    · exact hcomponent
    · exact h.unassigned v hv
  · intro v hv
    rcases List.mem_cons.1 hv with rfl | hv
    · rw [(visit_self s v).1, (visit_self s v).2]
    · rw [hnumber v hv, hlow v hv]
      exact h.low_le v hv
  · intro v hv
    rcases List.mem_cons.1 hv with rfl | hv
    · exact ⟨v, List.mem_cons_self, by rw [(visit_self s v).1, (visit_self s v).2], .refl⟩
    · obtain ⟨w, hw, heq, hreach⟩ := h.low_mem v hv
      exact ⟨w, List.mem_cons_of_mem _ hw, by rw [hnumber w hw, hlow v hv, heq], hreach⟩
  · intro f hf x hx
    rcases List.mem_cons.1 hf with rfl | hf
    · exact absurd hx List.not_mem_nil
    · have hxmem := h.above_mem hf hx
      obtain ⟨hlt, hle, hreach, hset⟩ := h.finished f hf x hx
      rw [hnumber x hxmem, hlow x hxmem, hlow f.node (h.node_mem hf)]
      exact ⟨hlt, hle, hreach, fun w hw => h.settled_visit ht hxmem (hset w hw)⟩

/-! ### A lower low point -/

theorem lowered_le (s : State) (node i x : ℕ) : (s.lowered node i).low x ≤ s.low x := by
  by_cases hx : x = node
  · simp [lowered, hx]
  · simp [lowered, hx]

theorem lowered_of_ne (s : State) {node i x : ℕ} (hx : x ≠ node) :
    (s.lowered node i).low x = s.low x := by
  simp [lowered, hx]

theorem lowered_self (s : State) (node i : ℕ) :
    (s.lowered node i).low node = min (s.low node) i := by
  simp [lowered]

/-- An edge that was followed stays so when a low point comes down. -/
theorem settled_lowered {node i x w : ℕ} (hset : s.Settled x w) :
    (s.lowered node i).Settled x w :=
  hset.imp id fun ⟨hw, hle⟩ => ⟨hw, (lowered_le s node i x).trans hle⟩

/-- **The low point of an open node may come down to the number of a node it reaches.** -/
theorem lowered (h : Core edges s frames) (hf : f ∈ frames) {w : ℕ} (hw : w ∈ s.stack)
    (hreach : Reaches edges f.node w) : Core edges (s.lowered f.node (s.number w)) frames where
  stack := h.stack
  onStack := h.onStack
  seen := h.seen
  fresh := h.fresh
  sorted := h.sorted
  unassigned := h.unassigned
  low_le v hv := (lowered_le s f.node _ v).trans (h.low_le v hv)
  low_mem v hv := by
    by_cases hvf : v = f.node
    · subst hvf
      rw [lowered_self]
      rcases min_choice (s.low f.node) (s.number w) with hmin | hmin
      · rw [hmin]
        exact h.low_mem f.node hv
      · rw [hmin]
        exact ⟨w, hw, rfl, hreach⟩
    · rw [lowered_of_ne s hvf]
      exact h.low_mem v hv
  finished g hg x hx := by
    obtain ⟨hlt, hle, hreach, hset⟩ := h.finished g hg x hx
    have hx' : (s.lowered f.node (s.number w)).low x = s.low x :=
      lowered_of_ne s (h.ne_of_above hf hg hx)
    rw [hx']
    exact ⟨hlt, (lowered_le s f.node _ g.node).trans hle, hreach, fun v hv =>
      settled_lowered (hset v hv)⟩
  closed := h.closed
  exact := h.exact
  falling := h.falling
  used := h.used

/-! ### A finished node -/

/-- **A node that is not the first of its component joins the frame below it.** -/
theorem merge (h : Core edges s (f :: g :: rest)) (hedge : Edge edges g.node f.node)
    (hlow : s.low f.node ≠ s.number f.node) (hle : s.low g.node ≤ s.low f.node)
    (hset : ∀ w ∈ edges.targets f.node, s.Settled f.node w) :
    Core edges s (⟨g.node, f.above ++ f.node :: g.above⟩ :: rest) where
  stack := by
    rw [h.stack]
    simp [Frame.block]
  onStack := h.onStack
  seen := h.seen
  fresh := h.fresh
  sorted := h.sorted
  unassigned := h.unassigned
  low_le := h.low_le
  low_mem := h.low_mem
  finished f' hf' x hx := by
    rcases List.mem_cons.1 hf' with rfl | hf'
    · rcases List.mem_append.1 hx with hx | hx
      · obtain ⟨hlt, hle', hreach, hset'⟩ := h.finished f List.mem_cons_self x hx
        exact ⟨hlt, hle.trans hle', .head hedge hreach, hset'⟩
      · rcases List.mem_cons.1 hx with rfl | hx
        · have hnode := h.low_le f.node (h.node_mem List.mem_cons_self)
          exact ⟨lt_of_le_of_ne hnode hlow, hle, .single hedge, hset⟩
        · exact h.finished g (by simp) x hx
    · exact h.finished f' (by simp [hf']) x hx
  closed := h.closed
  exact := h.exact
  falling := h.falling
  used := h.used

/-- The nodes above a frame's node on the stack have greater numbers, those below lesser. -/
theorem number_le_of_mem_block (h : Core edges s (f :: rest)) {x : ℕ} (hx : x ∈ f.block) :
    s.number f.node ≤ s.number x := by
  have hsorted := h.sorted
  rw [h.stack, List.flatMap_cons, List.pairwise_append] at hsorted
  rcases Frame.mem_block.1 hx with hx | rfl
  · have hblock := hsorted.1
    rw [Frame.block, List.pairwise_append] at hblock
    exact (hblock.2.2 x hx f.node (List.mem_singleton_self _)).le
  · exact le_refl _

theorem number_lt_of_mem_rest (h : Core edges s (f :: rest)) {x : ℕ}
    (hx : x ∈ rest.flatMap Frame.block) : s.number x < s.number f.node := by
  have hsorted := h.sorted
  rw [h.stack, List.flatMap_cons, List.pairwise_append] at hsorted
  exact hsorted.2.2 f.node (Frame.mem_block.2 (.inr rfl)) x hx

theorem mem_stack_cons (h : Core edges s (f :: rest)) {x : ℕ} :
    x ∈ s.stack ↔ x ∈ f.block ∨ x ∈ rest.flatMap Frame.block := by
  rw [h.stack, List.flatMap_cons, List.mem_append]

/-- A node on the stack with a number as high as the top frame's is of that frame. -/
theorem mem_block_of_number_le (h : Core edges s (f :: rest)) {x : ℕ} (hx : x ∈ s.stack)
    (hle : s.number f.node ≤ s.number x) : x ∈ f.block := by
  rcases h.mem_stack_cons.1 hx with hx | hx
  · exact hx
  · exact absurd (h.number_lt_of_mem_rest hx) (not_lt.2 hle)

/-- What a node with a component reaches has one. -/
theorem assigned_of_reaches (h : Core edges s frames) {v w : ℕ} (hv : s.component v ≠ none)
    (hreach : Reaches edges v w) : s.component w ≠ none := by
  induction hreach with
  | refl => exact hv
  | @tail x y _ hedge ih =>
    obtain ⟨c, hc⟩ := Option.ne_none_iff_exists'.1 ih
    exact (h.closed x c hc).2 y hedge

theorem mem_stack_of_mem_block (h : Core edges s (f :: rest)) {x : ℕ} (hx : x ∈ f.block) :
    x ∈ s.stack :=
  h.mem_stack_cons.2 (.inl hx)

theorem mem_stack_of_mem_rest (h : Core edges s (f :: rest)) {x : ℕ}
    (hx : x ∈ rest.flatMap Frame.block) : x ∈ s.stack :=
  h.mem_stack_cons.2 (.inr hx)

theorem notMem_block_of_mem_rest (h : Core edges s (f :: rest)) {x : ℕ}
    (hx : x ∈ rest.flatMap Frame.block) : x ∉ f.block := fun hblock =>
  absurd (h.number_lt_of_mem_rest hx) (not_lt.2 (h.number_le_of_mem_block hblock))

/-! ### A component -/

theorem popped_of_mem {block stack : List ℕ} {v : ℕ} (hv : v ∈ block) :
    (s.popped block stack).component v = some s.components := by
  simp [popped, hv]

theorem popped_of_notMem {block stack : List ℕ} {v : ℕ} (hv : v ∉ block) :
    (s.popped block stack).component v = s.component v := by
  simp [popped, hv]

theorem popped_ne_none {block stack : List ℕ} {v : ℕ}
    (hv : v ∈ block ∨ s.component v ≠ none) : (s.popped block stack).component v ≠ none := by
  by_cases hmem : v ∈ block
  · simp [popped_of_mem hmem]
  · rw [popped_of_notMem hmem]
    exact hv.resolve_left hmem

theorem mem_or_ne_none_of_popped {block stack : List ℕ} {v : ℕ}
    (hv : (s.popped block stack).component v ≠ none) : v ∈ block ∨ s.component v ≠ none := by
  by_cases hmem : v ∈ block
  · exact .inl hmem
  · rw [popped_of_notMem hmem] at hv
    exact .inr hv

/-- An edge that was followed stays so when a component comes off the stack. -/
theorem settled_popped (h : Core edges s (f :: rest)) {x w : ℕ} (hset : s.Settled x w) :
    (s.popped f.block (rest.flatMap Frame.block)).Settled x w := by
  rcases hset with hassigned | ⟨hwmem, hle⟩
  · exact .inl (popped_ne_none (.inr hassigned))
  · rcases h.mem_stack_cons.1 hwmem with hblock | hrest
    · exact .inl (popped_ne_none (.inl hblock))
    · exact .inr ⟨hrest, hle⟩

/-- The low point of a node below the frame is that of a node below it. -/
theorem low_mem_of_rest (h : Core edges s (f :: rest)) {v : ℕ}
    (hv : v ∈ rest.flatMap Frame.block) :
    ∃ w ∈ rest.flatMap Frame.block, s.number w = s.low v ∧ Reaches edges v w := by
  have hmem := h.mem_stack_of_mem_rest hv
  obtain ⟨w, hw, hnumber, hreach⟩ := h.low_mem v hmem
  -- the node of the low point has a number too small for the block
  have hlt : s.number w < s.number f.node :=
    calc s.number w = s.low v := hnumber
      _ ≤ s.number v := h.low_le v hmem
      _ < s.number f.node := h.number_lt_of_mem_rest hv
  refine ⟨w, (h.mem_stack_cons.1 hw).resolve_left fun hblock => ?_, hnumber, hreach⟩
  exact absurd hlt (not_lt.2 (h.number_le_of_mem_block hblock))

/-- A node with an older component has another one than the frame, and reaches nothing in it. -/
theorem apart_of_assigned (h : Core edges s (f :: rest)) {u v : ℕ} (hu : u ∈ f.block)
    (hv : s.component v ≠ none) :
    some s.components ≠ s.component v ∧ ¬Reaches edges v u := by
  obtain ⟨c, hc⟩ := Option.ne_none_iff_exists'.1 hv
  refine ⟨fun heq => ?_, fun hreach => ?_⟩
  · rw [hc] at heq
    cases heq
    exact absurd (h.closed v s.components hc).1 (lt_irrefl _)
  · exact h.assigned_of_reaches hv hreach (h.unassigned u (h.mem_stack_of_mem_block hu))

section Popped

variable (h : Core edges s (f :: rest)) (hlow : s.low f.node = s.number f.node)
  (hset : ∀ w ∈ edges.targets f.node, s.Settled f.node w)

include h hlow

/-- The low points in a frame that is a component are no lower than its node. -/
theorem number_le_low {x : ℕ} (hx : x ∈ f.block) : s.number f.node ≤ s.low x := by
  rcases Frame.mem_block.1 hx with hx | rfl
  · rw [← hlow]
    exact (h.finished f List.mem_cons_self x hx).2.1
  · exact hlow.ge

/-- **Each node of the frame reaches its node.** -/
theorem reaches_node {x : ℕ} (hx : x ∈ f.block) : Reaches edges x f.node := by
  induction hn : s.number x using Nat.strong_induction_on generalizing x with
  | _ n ih =>
    subst hn
    by_cases hxf : x = f.node
    · rw [hxf]
    · have habove := (Frame.mem_block.1 hx).resolve_right hxf
      have hmem := h.above_mem List.mem_cons_self habove
      obtain ⟨w, hw, hnumber, hreach⟩ := h.low_mem x hmem
      -- the low point is of the same frame, and lies lower
      have hwblock := h.mem_block_of_number_le hw (hnumber ▸ h.number_le_low hlow hx)
      have hlt := (h.finished f List.mem_cons_self x habove).1
      exact hreach.trans (ih (s.number w) (hnumber ▸ hlt) hwblock rfl)

omit hlow in
theorem reaches_of_node {x : ℕ} (hx : x ∈ f.block) : Reaches edges f.node x := by
  rcases Frame.mem_block.1 hx with hx | rfl
  · exact (h.finished f List.mem_cons_self x hx).2.2.1
  · exact .refl

include hset

/-- The edges of the frame lead into it, or to a node that has its component. -/
theorem mem_block_or_assigned_of_edge {x w : ℕ} (hx : x ∈ f.block) (hw : Edge edges x w) :
    w ∈ f.block ∨ s.component w ≠ none := by
  have hsettled : s.Settled x w := by
    rcases Frame.mem_block.1 hx with hx | rfl
    · exact (h.finished f List.mem_cons_self x hx).2.2.2 w hw
    · exact hset w hw
  rcases hsettled with hassigned | ⟨hwmem, hle⟩
  · exact .inr hassigned
  · exact .inl (h.mem_block_of_number_le hwmem ((h.number_le_low hlow hx).trans hle))

/-- The frame is closed once it is a component. -/
theorem closed_popped {v c : ℕ}
    (hc : (s.popped f.block (rest.flatMap Frame.block)).component v = some c) :
    c < s.components + 1 ∧ ∀ w ∈ edges.targets v,
      (s.popped f.block (rest.flatMap Frame.block)).component w ≠ none := by
  by_cases hv : v ∈ f.block
  · rw [popped_of_mem hv] at hc
    cases hc
    exact ⟨Nat.lt_succ_self _, fun w hw =>
      popped_ne_none (h.mem_block_or_assigned_of_edge hlow hset hv hw)⟩
  · rw [popped_of_notMem hv] at hc
    obtain ⟨hlt, hclosed⟩ := h.closed v c hc
    exact ⟨Nat.lt_succ_of_lt hlt, fun w hw => popped_ne_none (.inr (hclosed w hw))⟩

omit hset in
/-- **The nodes of the frame are those that reach each other.** -/
theorem exact_popped {u v : ℕ}
    (hu : (s.popped f.block (rest.flatMap Frame.block)).component u ≠ none)
    (hv : (s.popped f.block (rest.flatMap Frame.block)).component v ≠ none) :
    (s.popped f.block (rest.flatMap Frame.block)).component u =
        (s.popped f.block (rest.flatMap Frame.block)).component v ↔
      Reaches edges u v ∧ Reaches edges v u := by
  replace hu := mem_or_ne_none_of_popped hu
  replace hv := mem_or_ne_none_of_popped hv
  by_cases hub : u ∈ f.block <;> by_cases hvb : v ∈ f.block
  · rw [popped_of_mem hub, popped_of_mem hvb]
    refine iff_of_true rfl ⟨?_, ?_⟩
    · exact (h.reaches_node hlow hub).trans (h.reaches_of_node hvb)
    · exact (h.reaches_node hlow hvb).trans (h.reaches_of_node hub)
  · rw [popped_of_mem hub, popped_of_notMem hvb]
    obtain ⟨hne, hnot⟩ := h.apart_of_assigned hub (hv.resolve_left hvb)
    exact iff_of_false hne fun hreach => hnot hreach.2
  · rw [popped_of_notMem hub, popped_of_mem hvb]
    obtain ⟨hne, hnot⟩ := h.apart_of_assigned hvb (hu.resolve_left hub)
    exact iff_of_false hne.symm fun hreach => hnot hreach.1
  · rw [popped_of_notMem hub, popped_of_notMem hvb]
    exact h.exact u v (hu.resolve_left hub) (hv.resolve_left hvb)

omit hlow hset in
/-- What a node leads to has no later component. -/
theorem falling_popped {v c w d : ℕ}
    (hc : (s.popped f.block (rest.flatMap Frame.block)).component v = some c)
    (hw : w ∈ edges.targets v)
    (hd : (s.popped f.block (rest.flatMap Frame.block)).component w = some d) : d ≤ c := by
  by_cases hv : v ∈ f.block
  · rw [popped_of_mem hv] at hc
    cases hc
    by_cases hwb : w ∈ f.block
    · rw [popped_of_mem hwb] at hd
      cases hd
      exact le_refl _
    · rw [popped_of_notMem hwb] at hd
      exact (h.closed w d hd).1.le
  · rw [popped_of_notMem hv] at hc
    -- an older component leads nowhere on the stack
    have hwb : w ∉ f.block := fun hblock =>
      (h.closed v c hc).2 w hw (h.unassigned w (h.mem_stack_of_mem_block hblock))
    rw [popped_of_notMem hwb] at hd
    exact h.falling v c hc w hw d hd

omit hlow hset in
/-- Every component has a node. -/
theorem used_popped {c : ℕ} (hc : c < s.components + 1) :
    ∃ v, (s.popped f.block (rest.flatMap Frame.block)).component v = some c := by
  rcases Nat.lt_succ_iff_lt_or_eq.1 hc with hold | rfl
  · obtain ⟨v, hv⟩ := h.used c hold
    have hvb : v ∉ f.block := fun hblock => by
      rw [h.unassigned v (h.mem_stack_of_mem_block hblock)] at hv
      cases hv
    exact ⟨v, by rw [popped_of_notMem hvb, hv]⟩
  · exact ⟨f.node, popped_of_mem (Frame.mem_block.2 (.inr rfl))⟩

/-- **A frame whose node's low point is its own number is a component.** -/
theorem pop : Core edges (s.popped f.block (rest.flatMap Frame.block)) rest where
  stack := rfl
  onStack v := by
    show (if v ∈ f.block then false else s.onStack v) = true ↔ v ∈ rest.flatMap Frame.block
    by_cases hv : v ∈ f.block
    · rw [if_pos hv]
      exact iff_of_false Bool.false_ne_true fun hrest => h.notMem_block_of_mem_rest hrest hv
    · rw [if_neg hv, h.onStack v, h.mem_stack_cons]
      simp [hv]
  seen v := by
    show s.index v ≠ none ↔ v ∈ rest.flatMap Frame.block ∨ _
    rw [h.seen v, h.mem_stack_cons]
    by_cases hv : v ∈ f.block
    · simp [hv, popped_of_mem hv]
    · simp [hv, popped_of_notMem hv]
  fresh v hv := h.fresh v (h.mem_stack_of_mem_rest hv)
  sorted := by
    have hsorted := h.sorted
    rw [h.stack, List.flatMap_cons, List.pairwise_append] at hsorted
    exact hsorted.2.1
  unassigned v hv := by
    rw [popped_of_notMem (h.notMem_block_of_mem_rest hv)]
    exact h.unassigned v (h.mem_stack_of_mem_rest hv)
  low_le v hv := h.low_le v (h.mem_stack_of_mem_rest hv)
  low_mem v hv := h.low_mem_of_rest hv
  finished g hg x hx := by
    obtain ⟨hlt, hle, hreach, hsettled⟩ := h.finished g (by simp [hg]) x hx
    exact ⟨hlt, hle, hreach, fun w hw => h.settled_popped (hsettled w hw)⟩
  closed v c hc := h.closed_popped hlow hset hc
  exact u v hu hv := h.exact_popped hlow hu hv
  falling v c hc w hw d hd := h.falling_popped hc hw hd
  used c hc := h.used_popped hc

end Popped

end Core

/-- **Popping down to a node takes off the stretch above it and the node.** -/
theorem popComponent_eq (node : ℕ) (s : State) (above stack : List ℕ) (h : node ∉ above) :
    { popComponent node s (above ++ node :: stack) with components := s.components + 1 } =
      s.popped (above ++ [node]) stack := by
  induction above generalizing s with
  | nil =>
    simp only [popComponent, if_pos, List.nil_append, popped, List.mem_singleton]
    congr 1 <;> funext v <;> by_cases hv : v = node <;> simp [hv]
  | cons member above ih =>
    rw [List.mem_cons, not_or] at h
    have ih := ih { s with
      onStack := Function.update s.onStack member false
      component := Function.update s.component member (some s.components) } h.2
    simp only [List.cons_append, popComponent, if_neg (Ne.symm h.1)]
    rw [show s.components + 1 = ({ s with
      onStack := Function.update s.onStack member false
      component := Function.update s.component member (some s.components) } : State).components + 1
      from rfl, ih]
    simp only [popped, List.mem_cons]
    congr 1 <;> funext v <;> by_cases hv : v = member <;> simp [hv]

/-! ## The loop -/

/-- Another list of calls changes nothing else. -/
theorem Core.withCalls (h : Core edges s frames) (calls : List (ℕ × ℕ)) :
    Core edges { s with calls } frames :=
  ⟨h.stack, h.onStack, h.seen, h.fresh, h.sorted, h.unassigned, h.low_le, h.low_mem, h.finished,
    h.closed, h.exact, h.falling, h.used⟩

/-- The edges of the open nodes were followed as far as the calls say.  The last one of a node
below another may still be on its way: it leads to that one. -/
def Explored (edges : Graph) (s : State) : Option ℕ → List (ℕ × ℕ) → Prop
  | _, [] => True
  | above, (u, e) :: calls =>
      (∀ w ∈ (edges.targets u).take e, s.Settled u w ∨ above = some w) ∧
        (∀ w, above = some w → Edge edges u w) ∧ Explored edges s (some u) calls

/-- What was followed stays so in a state that keeps what the open nodes have settled. -/
theorem Explored.mono {s s' : State} {calls : List (ℕ × ℕ)} {above : Option ℕ}
    (h : Explored edges s above calls)
    (hkept : ∀ u ∈ calls.map Prod.fst, ∀ w, s.Settled u w → s'.Settled u w) :
    Explored edges s' above calls := by
  induction calls generalizing above with
  | nil => trivial
  | cons call calls ih =>
    obtain ⟨u, e⟩ := call
    obtain ⟨htaken, hedge, hrest⟩ := h
    refine ⟨fun w hw => (htaken w hw).imp_left (hkept u (by simp) w), hedge, ih hrest ?_⟩
    exact fun v hv => hkept v (List.mem_cons_of_mem _ hv)

/-- What holds between two turns of the loop. -/
structure Holds (edges : Graph) (s : State) (frames : List Frame) : Prop where
  core : Core edges s frames
  calls : s.calls.map Prod.fst = frames.map Frame.node
  explored : Explored edges s none s.calls

/-- The first edges of a node, with the next one. -/
theorem mem_take_succ {l : List ℕ} {e target w : ℕ} (htarget : l[e]? = some target)
    (hw : w ∈ l.take (e + 1)) : w ∈ l.take e ∨ w = target := by
  rw [List.take_add_one, htarget] at hw
  simpa using hw

/-- **Following an edge keeps the invariant.** -/
theorem Holds.follow {node e target : ℕ} {calls : List (ℕ × ℕ)}
    (h : Holds edges s frames) (hcalls : s.calls = (node, e) :: calls)
    (htarget : (edges.targets node)[e]? = some target) :
    ∃ frames', Holds edges
      (State.follow { s with calls := (node, e + 1) :: calls } node target) frames' := by
  have hnames := h.calls
  have hexplored := h.explored
  rw [hcalls] at hnames hexplored
  obtain ⟨htaken, -, hbelow⟩ := hexplored
  obtain _ | ⟨f, rest⟩ := frames
  · simp at hnames
  obtain ⟨rfl, hrest⟩ : node = f.node ∧ calls.map Prod.fst = rest.map Frame.node := by
    simpa using hnames
  have hedge : Edge edges f.node target := List.mem_of_getElem? htarget
  have hopen : ∀ u ∈ calls.map Prod.fst, u ∈ s.stack := by
    intro u hu
    rw [hrest, List.mem_map] at hu
    obtain ⟨g, hg, rfl⟩ := hu
    exact h.core.node_mem (by simp [hg])
  have hcore := h.core.withCalls ((f.node, e + 1) :: calls)
  cases hindex : s.index target with
  | none =>
    refine ⟨⟨target, []⟩ :: f :: rest, ?_⟩
    simp only [State.follow, hindex]
    refine ⟨hcore.visit hindex, ?_, ?_⟩
    · simpa [State.visit] using hrest
    · refine ⟨fun w hw => by simp at hw, fun w hw => by simp at hw, ?_⟩
      refine ⟨fun w hw => ?_, fun w hw => ?_, ?_⟩
      · rcases mem_take_succ htarget hw with hw | rfl
        · have hset := (htaken w hw).resolve_right (by simp)
          exact .inl (hcore.settled_visit hindex (hcore.node_mem List.mem_cons_self) hset)
        · exact .inr rfl
      · cases hw
        exact hedge
      · exact hbelow.mono fun u hu w hset => hcore.settled_visit hindex (hopen u hu) hset
  | some i =>
    have hnumber : s.number target = i := by rw [number, hindex, Option.getD_some]
    by_cases hon : s.onStack target = true
    · have hmem := (h.core.onStack target).1 hon
      refine ⟨f :: rest, ?_⟩
      simp only [State.follow, hindex, if_pos hon, ← hnumber]
      refine ⟨hcore.lowered List.mem_cons_self hmem (.single hedge), ?_, ?_⟩
      · simpa using hrest
      · refine ⟨fun w hw => .inl ?_, fun w hw => by simp at hw, ?_⟩
        · rcases mem_take_succ htarget hw with hw | rfl
          · exact Core.settled_lowered ((htaken w hw).resolve_right (by simp))
          · refine .inr ⟨hmem, ?_⟩
            exact (Core.lowered_self s f.node (s.number w)).le.trans (min_le_right _ _)
        · exact hbelow.mono fun u _ w hset => Core.settled_lowered hset
    · have hassigned : s.component target ≠ none := by
        have hseen := (h.core.seen target).1 (by simp [hindex])
        exact hseen.resolve_left fun hmem => hon ((h.core.onStack target).2 hmem)
      refine ⟨f :: rest, ?_⟩
      simp only [State.follow, hindex, if_neg hon]
      refine ⟨hcore, by simpa using hrest, ?_⟩
      refine ⟨fun w hw => .inl ?_, fun w hw => by simp at hw, ?_⟩
      · rcases mem_take_succ htarget hw with hw | rfl
        · exact (htaken w hw).resolve_right (by simp)
        · exact .inl hassigned
      · exact hbelow.mono fun u _ w hset => hset

/-- Finishing the first node of a component pops it. -/
theorem finish_of_first {node : ℕ} {calls : List (ℕ × ℕ)}
    (hindex : s.index node = some (s.low node))
    (hparent : ∀ call ∈ calls.head?, s.low call.1 ≤ s.low node) :
    State.finish s node calls =
      { popComponent node { s with calls } s.stack with components := s.components + 1 } := by
  have hcomponents : ∀ (stack : List ℕ) (s : State),
      (popComponent node s stack).components = s.components := by
    intro stack
    induction stack with
    | nil => exact fun s => rfl
    | cons member stack ih =>
      intro s
      simp only [popComponent]
      split
      · rfl
      · rw [ih]
  cases calls with
  | nil => simp [State.finish, hindex, hcomponents]
  | cons call calls =>
    have hle := hparent call (by simp)
    simp [State.finish, hindex, hcomponents, min_eq_left hle]

/-- Finishing another node hands its low point down. -/
theorem finish_of_rest {node parent e : ℕ} {calls : List (ℕ × ℕ)} (hne : node ≠ parent)
    (hindex : s.index node ≠ some (s.low node)) :
    State.finish s node ((parent, e) :: calls) =
      { s with calls := (parent, e) :: calls }.lowered parent (s.low node) := by
  have hlow : some (Function.update s.low parent (min (s.low parent) (s.low node)) node) ≠
      s.index node := by
    rw [Function.update_of_ne hne]
    exact hindex.symm
  simp only [State.finish, if_neg hlow, lowered]

/-- A node on the stack has its number. -/
theorem Core.index_eq (h : Core edges s frames) {v : ℕ} (hv : v ∈ s.stack) :
    s.index v = some (s.number v) := by
  obtain ⟨i, hi⟩ := Option.ne_none_iff_exists'.1 ((h.seen v).2 (.inl hv))
  rw [number, hi, Option.getD_some]

/-- The node of a frame below another has a lesser number. -/
theorem Core.number_lt_of_below (h : Core edges s (f :: rest)) (hg : g ∈ rest) :
    s.number g.node < s.number f.node :=
  h.number_lt_of_mem_rest (List.mem_flatMap.2 ⟨g, hg, Frame.mem_block.2 (.inr rfl)⟩)

section Finish

variable {calls : List (ℕ × ℕ)} (h : Core edges s (f :: rest))
  (hrest : calls.map Prod.fst = rest.map Frame.node)
  (hbelow : Explored edges s (some f.node) calls)
  (hset : ∀ w ∈ edges.targets f.node, s.Settled f.node w)

include h hrest

/-- The node below the first of a component has a low point no greater. -/
theorem low_parent_le (hlow : s.low f.node = s.number f.node) :
    ∀ call ∈ calls.head?, s.low call.1 ≤ s.low f.node := by
  intro call hcall
  have hmem : call.1 ∈ calls.map Prod.fst := List.mem_map_of_mem (List.mem_of_head? hcall)
  rw [hrest, List.mem_map] at hmem
  obtain ⟨g, hg, hgcall⟩ := hmem
  rw [← hgcall, hlow]
  exact (h.low_le g.node (h.node_mem (by simp [hg]))).trans (h.number_lt_of_below hg).le

/-- Finishing the first node of a component takes its frame off. -/
theorem finish_eq_popped (hlow : s.low f.node = s.number f.node) :
    State.finish s f.node calls =
      ({ s with calls } : State).popped f.block (rest.flatMap Frame.block) := by
  have habove : f.node ∉ f.above := fun hx =>
    h.ne_of_above List.mem_cons_self List.mem_cons_self hx rfl
  have hstack : s.stack = f.above ++ f.node :: rest.flatMap Frame.block := by
    rw [h.stack, List.flatMap_cons, Frame.block, List.append_assoc]
    rfl
  have hindex := h.index_eq (h.node_mem List.mem_cons_self)
  rw [finish_of_first (hlow ▸ hindex) (low_parent_le h hrest hlow), Frame.block,
    ← popComponent_eq f.node { s with calls } f.above _ habove, ← hstack]

include hbelow hset

/-- **Finishing the first node of its component keeps the invariant.** -/
theorem Holds.finish_first (hlow : s.low f.node = s.number f.node) :
    Holds edges (State.finish s f.node calls) rest := by
  have hcore := h.withCalls calls
  rw [finish_eq_popped h hrest hlow]
  refine ⟨hcore.pop hlow hset, hrest, ?_⟩
  -- the node below has the one popped among its targets
  have hassigned : ∀ w, some f.node = some w →
      (({ s with calls } : State).popped f.block (rest.flatMap Frame.block)).component w ≠
        none := by
    rintro w ⟨⟩
    exact Core.popped_ne_none (.inl (Frame.mem_block.2 (.inr rfl)))
  obtain _ | ⟨⟨u, e⟩, calls⟩ := calls
  · trivial
  · obtain ⟨htaken, -, hbelow⟩ := hbelow
    refine ⟨fun w hw => .inl ?_, fun w hw => by simp at hw, ?_⟩
    · rcases htaken w hw with hset | habove
      · exact hcore.settled_popped hset
      · exact .inl (hassigned w habove)
    · exact hbelow.mono fun u _ w hset => hcore.settled_popped hset

/-- **Finishing another node hands its frame to the one below.** -/
theorem Holds.finish_rest (hlow : s.low f.node ≠ s.number f.node) :
    ∃ frames', Holds edges (State.finish s f.node calls) frames' := by
  have hcore := h.withCalls calls
  have hmem := h.node_mem List.mem_cons_self
  obtain ⟨w, hw, hnumber, hreach⟩ := h.low_mem f.node hmem
  have hlt : s.number w < s.number f.node := by
    rw [hnumber]
    exact lt_of_le_of_ne (h.low_le f.node hmem) hlow
  obtain _ | ⟨g, rest⟩ := rest
  · -- nothing lies below the only frame
    rcases h.mem_stack_cons.1 hw with hblock | hnil
    · exact absurd hlt (not_lt.2 (h.number_le_of_mem_block hblock))
    · simp at hnil
  obtain _ | ⟨⟨u, e⟩, calls⟩ := calls
  · simp at hrest
  obtain ⟨rfl, hrest'⟩ : u = g.node ∧ calls.map Prod.fst = rest.map Frame.node := by
    simpa using hrest
  obtain ⟨htaken, hedge, hbelow⟩ := hbelow
  have hedge : Edge edges g.node f.node := hedge f.node rfl
  have hne : f.node ≠ g.node := fun heq =>
    absurd (h.number_lt_of_below List.mem_cons_self) (by rw [heq]; exact lt_irrefl _)
  have hindex : s.index f.node ≠ some (s.low f.node) := by
    rw [h.index_eq hmem]
    exact fun heq => hlow (Option.some.inj heq).symm
  have hlowered := hcore.lowered (f := g) (by simp) hw (.head hedge hreach)
  refine ⟨⟨g.node, f.above ++ f.node :: g.above⟩ :: rest, ?_⟩
  rw [finish_of_rest hne hindex, ← hnumber]
  refine ⟨hlowered.merge hedge ?_ ?_ ?_, hrest, ?_⟩
  · rw [Core.lowered_of_ne _ hne]
    exact hlow
  · rw [Core.lowered_of_ne _ hne, Core.lowered_self]
    exact (min_le_right _ _).trans hnumber.le
  · exact fun v hv => Core.settled_lowered (hset v hv)
  · refine ⟨fun v hv => .inl ?_, fun v hv => by simp at hv, ?_⟩
    · rcases htaken v hv with hset | habove
      · exact Core.settled_lowered hset
      · cases habove
        refine .inr ⟨hmem, ?_⟩
        rw [Core.lowered_self]
        exact (min_le_right _ _).trans hlt.le
    · exact hbelow.mono fun u _ v hset => Core.settled_lowered hset

end Finish

/-- **Finishing a node keeps the invariant.** -/
theorem Holds.finish {node e : ℕ} {calls : List (ℕ × ℕ)} (h : Holds edges s frames)
    (hcalls : s.calls = (node, e) :: calls) (hnone : (edges.targets node)[e]? = none) :
    ∃ frames', Holds edges (State.finish s node calls) frames' := by
  have hnames := h.calls
  have hexplored := h.explored
  rw [hcalls] at hnames hexplored
  obtain ⟨htaken, -, hbelow⟩ := hexplored
  obtain _ | ⟨f, rest⟩ := frames
  · simp at hnames
  obtain ⟨rfl, hrest⟩ : node = f.node ∧ calls.map Prod.fst = rest.map Frame.node := by
    simpa using hnames
  have hset : ∀ w ∈ edges.targets f.node, s.Settled f.node w := by
    intro w hw
    rw [List.take_of_length_le (List.getElem?_eq_none_iff.1 hnone)] at htaken
    exact (htaken w hw).resolve_right (by simp)
  by_cases hlow : s.low f.node = s.number f.node
  · exact ⟨rest, Holds.finish_first h.core hrest hbelow hset hlow⟩
  · exact Holds.finish_rest h.core hrest hbelow hset hlow

/-- **A turn of the loop keeps the invariant.** -/
theorem Holds.step (h : Holds edges s frames) : ∃ frames', Holds edges (s.step edges) frames' := by
  match hcalls : s.calls with
  | [] =>
    refine ⟨frames, ?_⟩
    rwa [State.step, hcalls]
  | (node, e) :: calls =>
    cases htarget : (edges.targets node)[e]? with
    | none =>
      obtain ⟨frames', hframes⟩ := h.finish hcalls htarget
      refine ⟨frames', ?_⟩
      simpa only [State.step, hcalls, htarget] using hframes
    | some target =>
      obtain ⟨frames', hframes⟩ := h.follow hcalls htarget
      refine ⟨frames', ?_⟩
      simpa only [State.step, hcalls, htarget] using hframes

/-! ## The loop ends -/

/-- The turns left: one for each edge not followed yet, and one for each node not finished. -/
def work (edges : Graph) (s : State) : ℕ :=
  (∑ v ∈ Finset.range edges.length,
    if s.index v = none then (edges.targets v).length + 1 else 0) +
  (s.calls.map fun call => (edges.targets call.1).length - call.2 + 1).sum

/-- Opening a node moves its turns to the calls. -/
theorem work_visit {t : ℕ} (ht : s.index t = none) (hlt : t < edges.length) :
    work edges (s.visit t) = work edges s := by
  have hmem : t ∈ Finset.range edges.length := Finset.mem_range.2 hlt
  have hothers : ∀ v ∈ (Finset.range edges.length).erase t,
      (if (s.visit t).index v = none then (edges.targets v).length + 1 else 0) =
        if s.index v = none then (edges.targets v).length + 1 else 0 := by
    intro v hv
    simp [State.visit, Finset.ne_of_mem_erase hv]
  rw [work, work, ← Finset.add_sum_erase _ _ hmem, Finset.sum_congr rfl hothers]
  rw [← Finset.add_sum_erase (Finset.range edges.length)
    (fun v => if s.index v = none then (edges.targets v).length + 1 else 0) hmem]
  simp [State.visit, ht]
  omega

/-- Popping a component opens and closes no node. -/
theorem popComponent_index_calls (node : ℕ) (s : State) (stack : List ℕ) :
    (popComponent node s stack).index = s.index ∧ (popComponent node s stack).calls = s.calls := by
  induction stack generalizing s with
  | nil => exact ⟨rfl, rfl⟩
  | cons member stack ih =>
    simp only [popComponent]
    split
    · exact ⟨rfl, rfl⟩
    · exact ih _

theorem finish_index_calls (s : State) (node : ℕ) (calls : List (ℕ × ℕ)) :
    (State.finish s node calls).index = s.index ∧ (State.finish s node calls).calls = calls := by
  obtain _ | ⟨⟨parent, e⟩, calls⟩ := calls
  · simp only [State.finish]
    split
    · exact popComponent_index_calls node _ _
    · exact ⟨rfl, rfl⟩
  · simp only [State.finish]
    split
    · exact popComponent_index_calls node _ _
    · exact ⟨rfl, rfl⟩

/-- **A turn of the loop leaves fewer.** -/
theorem work_step (hwf : edges.WellFormed) (hcalls : s.calls ≠ []) :
    work edges (s.step edges) < work edges s := by
  obtain ⟨⟨node, e⟩, calls, hs⟩ := List.exists_cons_of_ne_nil hcalls
  cases htarget : (edges.targets node)[e]? with
  | none =>
    obtain ⟨hindex, hcalls'⟩ := finish_index_calls s node calls
    have hstep : s.step edges = State.finish s node calls := by
      simp only [State.step, hs, htarget]
    rw [hstep, work, work, hindex, hcalls', hs]
    simp only [List.map_cons, List.sum_cons]
    omega
  | some target =>
    have hlt : e < (edges.targets node).length := (List.getElem?_eq_some_iff.1 htarget).1
    have hnext : work edges { s with calls := (node, e + 1) :: calls } < work edges s := by
      simp only [work, hs, List.map_cons, List.sum_cons]
      omega
    have hstep : s.step edges =
        State.follow { s with calls := (node, e + 1) :: calls } node target := by
      simp only [State.step, hs, htarget]
    rw [hstep]
    cases hindex : s.index target with
    | none =>
      have hvisit := work_visit (s := { s with calls := (node, e + 1) :: calls }) hindex
        (hwf node target (List.mem_of_getElem? htarget))
      simp only [State.follow, hindex]
      rwa [hvisit]
    | some i =>
      simp only [State.follow, hindex]
      split
      · exact hnext
      · exact hnext

/-- A node that was seen stays so. -/
theorem index_step (v : ℕ) (hv : s.index v ≠ none) : (s.step edges).index v ≠ none := by
  match hs : s.calls with
  | [] => rwa [State.step, hs]
  | (node, e) :: calls =>
    cases htarget : (edges.targets node)[e]? with
    | none =>
      simp only [State.step, hs, htarget]
      rwa [(finish_index_calls s node calls).1]
    | some target =>
      simp only [State.step, hs, htarget, State.follow]
      split
      · rename_i hindex
        have hne : v ≠ target := fun heq => hv (heq ▸ hindex)
        simpa [State.visit, hne] using hv
      · split
        · exact hv
        · exact hv

/-- **Only nodes of the graph are ever seen.** -/
theorem index_lt_step (hwf : edges.WellFormed) (h : ∀ v, s.index v ≠ none → v < edges.length)
    (v : ℕ) (hv : (s.step edges).index v ≠ none) : v < edges.length := by
  match hs : s.calls with
  | [] =>
    rw [State.step, hs] at hv
    exact h v hv
  | (node, e) :: calls =>
    cases htarget : (edges.targets node)[e]? with
    | none =>
      simp only [State.step, hs, htarget] at hv
      rw [(finish_index_calls s node calls).1] at hv
      exact h v hv
    | some target =>
      by_cases hvt : v = target
      · exact hvt ▸ hwf node target (List.mem_of_getElem? htarget)
      · refine h v fun hnone => hv ?_
        simp only [State.step, hs, htarget, State.follow]
        split
        · simp [State.visit, hvt, hnone]
        · split
          · exact hnone
          · exact hnone

/-- What every turn keeps, the loop keeps. -/
theorem loop_keeps {P : State → Prop} (hstep : ∀ s, P s → P (s.step edges)) (fuel : ℕ)
    {s : State} (h : P s) : P (s.loop edges fuel) := by
  induction fuel generalizing s with
  | zero => exact h
  | succ fuel ih =>
    rw [State.loop]
    split
    · exact h
    · exact ih (hstep s h)

/-- **With a turn for each edge and node left, the loop ends with no node open.** -/
theorem loop_done (hwf : edges.WellFormed) (fuel : ℕ) {s : State} {frames : List Frame}
    (h : Holds edges s frames) (hfuel : work edges s ≤ fuel) :
    Holds edges (s.loop edges fuel) [] ∧
      ∀ v, s.index v ≠ none → (s.loop edges fuel).index v ≠ none := by
  have hend : ∀ {s : State} {frames : List Frame}, Holds edges s frames → s.calls = [] →
      Holds edges s [] := by
    intro s frames h hcalls
    have hnames := h.calls
    rw [hcalls, List.map_nil, eq_comm, List.map_eq_nil_iff] at hnames
    exact hnames ▸ h
  induction fuel generalizing s frames with
  | zero =>
    have hcalls : s.calls = [] := by
      by_contra hne
      exact absurd (work_step hwf hne) (by omega)
    exact ⟨hend h hcalls, fun v hv => hv⟩
  | succ fuel ih =>
    rw [State.loop]
    by_cases hcalls : s.calls = []
    · rw [if_pos hcalls]
      exact ⟨hend h hcalls, fun v hv => hv⟩
    · rw [if_neg hcalls]
      obtain ⟨frames', hframes⟩ := h.step
      have hless := work_step hwf hcalls
      obtain ⟨hholds, hseen⟩ := ih hframes (by omega)
      exact ⟨hholds, fun v hv => hseen v (index_step v hv)⟩

end State

open State

variable {edges : Graph}

/-- With no node open, no more turns are left than the fuel. -/
theorem work_le_fuel {s : State} (hcalls : s.calls = []) : work edges s ≤ fuel edges := by
  have hfuel : fuel edges = ∑ v ∈ Finset.range edges.length, ((edges.targets v).length + 1) := by
    rw [fuel, Finset.sum_range, ← Fin.sum_univ_fun_getElem]
    simp [Graph.targets]
  rw [work, hcalls, hfuel]
  simp only [List.map_nil, List.sum_nil, add_zero]
  refine Finset.sum_le_sum fun v _ => ?_
  split
  · exact le_refl _
  · exact Nat.zero_le _

/-- **A search leaves no node open, and has seen its root.** -/
theorem search_done (hwf : edges.WellFormed) {s : State} (h : Holds edges s []) {root : ℕ}
    (hroot : root < edges.length) :
    Holds edges (search edges s root) [] ∧ (search edges s root).index root ≠ none ∧
      ∀ v, s.index v ≠ none → (search edges s root).index v ≠ none := by
  have hcalls : s.calls = [] := by simpa using h.calls
  cases hindex : s.index root with
  | some i =>
    simp only [search, hindex]
    exact ⟨h, by simp, fun v hv => hv⟩
  | none =>
    have hvisit : Holds edges (s.visit root) [⟨root, []⟩] := by
      refine ⟨h.core.visit hindex, ?_, ?_⟩
      · simp [State.visit, hcalls]
      · simp [State.visit, hcalls, Explored]
    have hwork : work edges (s.visit root) ≤ fuel edges :=
      (work_visit hindex hroot).le.trans (work_le_fuel hcalls)
    obtain ⟨hholds, hseen⟩ := loop_done hwf (fuel edges) hvisit hwork
    simp only [search, hindex]
    refine ⟨hholds, hseen root (by simp [State.visit]), fun v hv => hseen v ?_⟩
    have hne : v ≠ root := fun heq => hv (heq ▸ hindex)
    simpa [State.visit, hne] using hv

/-- The search of a root sees nodes of the graph alone. -/
theorem index_lt_search (hwf : edges.WellFormed) {s : State}
    (h : ∀ v, s.index v ≠ none → v < edges.length) {root : ℕ} (hroot : root < edges.length) :
    ∀ v, (search edges s root).index v ≠ none → v < edges.length := by
  cases hindex : s.index root with
  | some i =>
    simp only [search, hindex]
    exact h
  | none =>
    simp only [search, hindex]
    refine loop_keeps (P := fun s => ∀ v, s.index v ≠ none → v < edges.length)
      (fun s hs => index_lt_step hwf hs) (fuel edges) fun v hv => ?_
    by_cases hne : v = root
    · exact hne ▸ hroot
    · exact h v (by simpa [State.visit, hne] using hv)

theorem index_lt_searchAll (hwf : edges.WellFormed) {v : ℕ}
    (hv : (searchAll edges).index v ≠ none) : v < edges.length := by
  have hfold : ∀ (roots : List ℕ) (s : State), (∀ r ∈ roots, r < edges.length) →
      (∀ v, s.index v ≠ none → v < edges.length) →
      ∀ v, (roots.foldl (search edges) s).index v ≠ none → v < edges.length := by
    intro roots
    induction roots with
    | nil => exact fun s _ h => h
    | cons root roots ih =>
      intro s hroots h
      exact ih _ (fun r hr => hroots r (List.mem_cons_of_mem _ hr))
        (index_lt_search hwf h (hroots root List.mem_cons_self))
  exact hfold (List.range edges.length) {} (by simp) (by simp) v hv

/-- **Every root is seen in the end, and none is open.** -/
theorem searchAll_done (hwf : edges.WellFormed) :
    Holds edges (searchAll edges) [] ∧ ∀ v < edges.length, (searchAll edges).index v ≠ none := by
  have hfold : ∀ (roots : List ℕ) (s : State), (∀ r ∈ roots, r < edges.length) →
      Holds edges s [] → Holds edges (roots.foldl (search edges) s) [] ∧
        ∀ v, v ∈ roots ∨ s.index v ≠ none → (roots.foldl (search edges) s).index v ≠ none := by
    intro roots
    induction roots with
    | nil => exact fun s _ h => ⟨h, fun v hv => hv.resolve_left List.not_mem_nil⟩
    | cons root roots ih =>
      intro s hroots h
      obtain ⟨hholds, hself, hseen⟩ := search_done hwf h (hroots root List.mem_cons_self)
      obtain ⟨hend, hall⟩ := ih (search edges s root)
        (fun r hr => hroots r (List.mem_cons_of_mem _ hr)) hholds
      refine ⟨hend, fun v hv => hall v ?_⟩
      rcases hv with hv | hv
      · rcases List.mem_cons.1 hv with rfl | hv
        · exact .inr hself
        · exact .inl hv
      · exact .inr (hseen v hv)
  have hempty : Holds edges {} [] := ⟨core_empty edges, rfl, trivial⟩
  obtain ⟨hholds, hseen⟩ := hfold (List.range edges.length) {} (by simp) hempty
  exact ⟨hholds, fun v hv => hseen v (.inl (List.mem_range.2 hv))⟩

/-- **In the end every node of the graph, and no other, has a component.** -/
theorem searchAll_assigned (hwf : edges.WellFormed) {v : ℕ} :
    (searchAll edges).component v ≠ none ↔ v < edges.length := by
  obtain ⟨hholds, hseen⟩ := searchAll_done hwf
  have hstack : v ∉ (searchAll edges).stack := by
    rw [hholds.core.stack]
    exact List.not_mem_nil
  constructor
  · intro hv
    exact index_lt_searchAll hwf ((hholds.core.seen v).2 (.inr hv))
  · intro hv
    exact ((hholds.core.seen v).1 (hseen v hv)).resolve_left hstack

/-- **Two nodes have the same component exactly when each reaches the other.** -/
theorem components_spec (hwf : edges.WellFormed) {u v : ℕ} (hu : u < edges.length)
    (hv : v < edges.length) :
    (components edges).1 u < (components edges).2 ∧
      ((components edges).1 u = (components edges).1 v ↔
        Reaches edges u v ∧ Reaches edges v u) := by
  have hcore := (searchAll_done hwf).1.core
  have hassigned : ∀ w < edges.length, (searchAll edges).component w ≠ none := fun w hw =>
    (searchAll_assigned hwf).2 hw
  obtain ⟨c, hc⟩ := Option.ne_none_iff_exists'.1 (hassigned u hu)
  obtain ⟨d, hd⟩ := Option.ne_none_iff_exists'.1 (hassigned v hv)
  have hexact := hcore.exact u v (hassigned u hu) (hassigned v hv)
  rw [hc, hd, Option.some.injEq] at hexact
  simp only [components, hc, hd, Option.getD_some]
  exact ⟨(hcore.closed u c hc).1, hexact⟩

end Tarjan
end Lib
end SozuGateway
