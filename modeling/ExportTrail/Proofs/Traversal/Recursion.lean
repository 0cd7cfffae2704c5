import ExportTrail.Traversal
import Mathlib.Data.List.Basic

/-!
# Traversal by recursion

A traversal keeps the nodes that are still to be visited on one stack. `Visitor.descend` visits the
same nodes by recursion: it calls the hook of a node, and goes on with the named children of the
node, from left to right, unless the hook or the kind of the node keeps it from entering. The two
call the hooks on the same nodes, reached in the same way, in the same order and with the same
states (`traverse_noting`), whatever the hooks do to the state.

The order is that of the source (`pairwise_descend`): a node is called before those below it, and
what is below a node before what is right of it.
-/

namespace ExportTrail

/-- Whether a node comes before another one of its parse: where the ways down to them part, its own
goes further to the left, or it ends above the other one. -/
def Node.Precedes (a b : Node) : Prop := a.address.reverse < b.address.reverse

namespace Cursor

/-- Whether a cursor is reached from another one through named children, by way of cursors that all
meet a condition. The cursor itself need not meet it. -/
inductive Through (P : Cursor → Prop) (c : Cursor) : Cursor → Prop
  | here : Through P c c
  | child {d : Cursor} {n : Node} (way : Through P c d) (entered : P d)
    (mem : n ∈ d.node.namedChildren) : Through P c (.via d n)

namespace Through

variable {P : Cursor → Prop} {c d e : Cursor}

theorem of_mem_namedChildren (entered : P c) (mem : d ∈ c.namedChildren) : c.Through P d := by
  obtain ⟨n, inner, rfl⟩ := List.mem_map.1 mem
  exact .child .here entered inner

theorem trans (h : c.Through P d) (h' : d.Through P e) : c.Through P e := by
  induction h' with
  | here => exact h
  | child _ entered mem ih => exact .child ih entered mem

/-- The way to another cursor begins with a named child. -/
theorem eq_or_child (h : c.Through P d) : d = c ∨ P c ∧ ∃ e ∈ c.namedChildren, e.Through P d := by
  induction h with
  | here => exact .inl rfl
  | @child d n way entered mem ih =>
    rcases ih with rfl | ⟨first, e, child, rest⟩
    · exact .inr ⟨entered, _, List.mem_map_of_mem mem, .here⟩
    · exact .inr ⟨first, e, child, .child rest entered mem⟩

end Through

theorem through_iff {P : Cursor → Prop} (c d : Cursor) :
    c.Through P d ↔ d = c ∨ P c ∧ ∃ e ∈ c.namedChildren, e.Through P d := by
  refine ⟨Through.eq_or_child, ?_⟩
  rintro (rfl | ⟨entered, e, child, rest⟩)
  · exact .here
  · exact (Through.of_mem_namedChildren entered child).trans rest

end Cursor

namespace Visitor

variable {σ : Type}

/-- The same visitor, which also lists the nodes that its hooks are called on. -/
def noting (v : Visitor σ) : Visitor (σ × List Cursor) where
  hook kind :=
    (v.hook kind).map fun hook c s => ((hook c s.1).1, (hook c s.1).2, s.2 ++ [c])

mutual

/-- Visits a node and what is below it by recursion. The answer lists the nodes that hooks were
called on, and gives the last state. -/
def descend (v : Visitor σ) (c : Cursor) (s : σ) : List Cursor × σ :=
  match v.hook c.kind with
  | some hook =>
    if (hook c s).1 then
      let below := v.descendAll c.namedChildren (hook c s).2
      (c :: below.1, below.2)
    else ([c], (hook c s).2)
  | none => if bodyKinds.contains c.kind then ([], s) else v.descendAll c.namedChildren s
termination_by 2 * c.node.tree.size
decreasing_by all_goals have := stackSize_namedChildren_lt c; omega

/-- Visits several nodes from left to right, each with what is below it. -/
def descendAll (v : Visitor σ) (cs : List Cursor) (s : σ) : List Cursor × σ :=
  match cs with
  | [] => ([], s)
  | c :: cs =>
    let here := v.descend c s
    let later := v.descendAll cs here.2
    (here.1 ++ later.1, later.2)
termination_by 2 * stackSize cs + 1
decreasing_by
  all_goals
    have := c.node.tree.size_pos
    simp only [stackSize, List.map_cons, Tree.sizeAll_cons]
    omega

end

variable (v : Visitor σ)

@[simp] theorem descendAll_nil (s : σ) : v.descendAll [] s = ([], s) := by
  rw [descendAll]

theorem descendAll_cons (c : Cursor) (cs : List Cursor) (s : σ) :
    v.descendAll (c :: cs) s =
      ((v.descend c s).1 ++ (v.descendAll cs (v.descend c s).2).1,
        (v.descendAll cs (v.descend c s).2).2) := by
  rw [descendAll]

theorem descendAll_append (cs ds : List Cursor) (s : σ) :
    v.descendAll (cs ++ ds) s =
      ((v.descendAll cs s).1 ++ (v.descendAll ds (v.descendAll cs s).2).1,
        (v.descendAll ds (v.descendAll cs s).2).2) := by
  induction cs generalizing s with
  | nil => simp
  | cons c cs ih => simp only [List.cons_append, descendAll_cons, ih, List.append_assoc]

theorem descendAll_singleton (c : Cursor) (s : σ) : v.descendAll [c] s = v.descend c s := by
  rw [descendAll_cons, descendAll_nil, List.append_nil]

/-- The node on top of a stack is visited, and then its children or those after it. -/
theorem descendAll_visit (c : Cursor) (cs : List Cursor) (s : σ) :
    v.descendAll (c :: cs) s =
      let own := if (v.hook c.kind).isSome then [c] else []
      let later := v.descendAll (if (v.visit c s).1 then c.namedChildren ++ cs else cs) (v.visit c s).2
      (own ++ later.1, later.2) := by
  rw [descendAll_cons, descend, visit]
  cases v.hook c.kind with
  | some hook =>
    cases entered : (hook c s).1 <;> simp [entered, descendAll_append]
  | none =>
    cases bodyKinds.contains c.kind <;> simp [descendAll_append]

theorem visit_noting (c : Cursor) (s : σ) (noted : List Cursor) :
    v.noting.visit c (s, noted) =
      ((v.visit c s).1, (v.visit c s).2, noted ++ if (v.hook c.kind).isSome then [c] else []) := by
  simp only [visit, noting]
  cases v.hook c.kind with
  | some hook => rfl
  | none => simp

/-- The nodes that are left on a stack are visited as by recursion. -/
theorem traverseStack_eq (stack : List Cursor) (s : σ) :
    v.traverseStack stack s = (v.descendAll stack s).2 := by
  fun_induction v.traverseStack stack s with
  | case1 s => rw [descendAll_nil]
  | case2 c stack s entered ih => rw [descendAll_visit, if_pos entered, ih]
  | case3 c stack s left ih => rw [descendAll_visit, if_neg left, ih]

/-- Their hooks are called in the order of the recursion. -/
theorem traverseStack_noting (stack : List Cursor) (s : σ) (noted : List Cursor) :
    v.noting.traverseStack stack (s, noted) =
      ((v.descendAll stack s).2, noted ++ (v.descendAll stack s).1) := by
  fun_induction v.traverseStack stack s generalizing noted with
  | case1 s => simp [traverseStack]
  | case2 c stack s entered ih =>
    rw [traverseStack, visit_noting, if_pos entered, ih, descendAll_visit v c, if_pos entered,
      List.append_assoc]
  | case3 c stack s left ih =>
    rw [traverseStack, visit_noting, if_neg left, ih, descendAll_visit v c, if_neg left,
      List.append_assoc]

theorem traverse_noting (c : Cursor) (s : σ) :
    v.traverse c s = (v.descend c s).2 ∧
      v.noting.traverse c (s, []) = ((v.descend c s).2, (v.descend c s).1) := by
  rw [traverse, traverse, traverseStack_eq, traverseStack_noting, descendAll_singleton]
  exact ⟨rfl, rfl⟩

/-- Hooks are called on nodes of their kinds, which are reached through named children. -/
theorem through_of_mem_descendAll {stack : List Cursor} {s : σ} {d : Cursor}
    (h : d ∈ (v.descendAll stack s).1) :
    (v.hook d.kind).isSome ∧ ∃ c ∈ stack, c.Through (fun _ => True) d := by
  have own {c : Cursor} (mem : d ∈ if (v.hook c.kind).isSome then [c] else []) :
      (v.hook d.kind).isSome ∧ d = c := by
    split at mem
    · next called =>
      obtain rfl := List.mem_singleton.1 mem
      exact ⟨called, rfl⟩
    · cases mem
  fun_induction v.traverseStack stack s with
  | case1 s => simp at h
  | case2 c stack s entered ih =>
    rw [descendAll_visit, if_pos entered] at h
    rcases List.mem_append.1 h with here | later
    · obtain ⟨called, rfl⟩ := own here
      exact ⟨called, d, List.mem_cons_self, .here⟩
    · obtain ⟨called, c', mem, way⟩ := ih later
      refine ⟨called, ?_⟩
      rcases List.mem_append.1 mem with child | mem
      · exact ⟨c, List.mem_cons_self, (Cursor.Through.of_mem_namedChildren trivial child).trans way⟩
      · exact ⟨c', List.mem_cons_of_mem c mem, way⟩
  | case3 c stack s left ih =>
    rw [descendAll_visit, if_neg left] at h
    rcases List.mem_append.1 h with here | later
    · obtain ⟨called, rfl⟩ := own here
      exact ⟨called, d, List.mem_cons_self, .here⟩
    · obtain ⟨called, c', mem, way⟩ := ih later
      exact ⟨called, c', List.mem_cons_of_mem c mem, way⟩

/-! ## The order of the calls -/

/-- Whether all of some nodes stand at or below a node, and in the order of the source. -/
structure Laid (c : Cursor) (calls : List Cursor) : Prop where
  below : ∀ d ∈ calls, c.node.address <:+ d.node.address
  ordered : calls.Pairwise fun a b => a.node.Precedes b.node

/-- Whether a node stands to the left of another one below the same node, and so all that is below
it. -/
def Apart (a b : Cursor) : Prop :=
  ∃ (up : List Nat) (i j : Nat), i < j ∧ a.node.address = i :: up ∧ b.node.address = j :: up

theorem Apart.precedes {a b d e : Cursor} (h : Apart a b) (hd : a.node.address <:+ d.node.address)
    (he : b.node.address <:+ e.node.address) : d.node.Precedes e.node := by
  obtain ⟨up, i, j, lt, left, right⟩ := h
  obtain ⟨x, hx⟩ := hd
  obtain ⟨y, hy⟩ := he
  have way (z : List Nat) (k : Nat) : (z ++ k :: up).reverse = up.reverse ++ k :: z.reverse := by
    simp
  rw [Node.Precedes, ← hx, ← hy, left, right, way, way]
  exact List.append_left_lt (List.cons_lt_cons_iff.2 (.inl lt))

theorem address_of_mem_namedChildren {c d : Cursor} (h : d ∈ c.namedChildren) :
    ∃ i, d.node.address = i :: c.node.address := by
  obtain ⟨n, mem, rfl⟩ := List.mem_map.1 h
  obtain ⟨i, lt, rfl⟩ := List.mem_mapIdx.1 (List.mem_filter.1 mem).1
  exact ⟨i, rfl⟩

theorem pairwise_apart_namedChildren (c : Cursor) : c.namedChildren.Pairwise Apart := by
  refine List.pairwise_map.2 (List.Pairwise.filter _ (List.pairwise_iff_getElem.2 ?_))
  intro i j hi hj lt
  refine ⟨c.node.address, i, j, lt, ?_, ?_⟩ <;> simp [Node.children, Node.childAt, Cursor.node]

theorem size_lt_of_mem_namedChildren {c d : Cursor} (h : d ∈ c.namedChildren) :
    d.node.tree.size < c.node.tree.size := by
  have le : stackSize [d] ≤ stackSize c.namedChildren :=
    Tree.sizeAll_le_of_sublist ((List.singleton_sublist.2 h).map _)
  have lt := stackSize_namedChildren_lt c
  simp only [stackSize, List.map_cons, List.map_nil, Tree.sizeAll_cons, Tree.sizeAll_nil] at le lt
  omega

/-- A node comes before those below it. -/
theorem precedes_of_address {c d : Node} {i : Nat} (h : i :: c.address <:+ d.address) :
    c.Precedes d := by
  obtain ⟨x, hx⟩ := h
  have way : (x ++ i :: c.address).reverse = c.address.reverse ++ i :: x.reverse := by simp
  have longer : c.address.reverse ++ [] < c.address.reverse ++ i :: x.reverse :=
    List.append_left_lt (List.nil_lt_cons ..)
  rwa [Node.Precedes, ← hx, way, ← List.append_nil c.address.reverse, List.append_assoc]

/-- The calls of nodes that stand apart from one another, from left to right. -/
theorem pairwise_descendAll {cs : List Cursor} (apart : cs.Pairwise Apart)
    (each : ∀ c ∈ cs, ∀ s, Laid c (v.descend c s).1) (s : σ) :
    (∀ d ∈ (v.descendAll cs s).1, ∃ c ∈ cs, c.node.address <:+ d.node.address) ∧
      (v.descendAll cs s).1.Pairwise fun a b => a.node.Precedes b.node := by
  induction cs generalizing s with
  | nil => simp
  | cons c cs ih =>
    obtain ⟨right, apart⟩ := List.pairwise_cons.1 apart
    obtain ⟨here, each⟩ := List.forall_mem_cons.1 each
    obtain ⟨below, ordered⟩ := here s
    obtain ⟨laterBelow, laterOrdered⟩ := ih apart each (v.descend c s).2
    rw [descendAll_cons]
    refine ⟨fun d mem => ?_, List.pairwise_append.2 ⟨ordered, laterOrdered, ?_⟩⟩
    · rcases List.mem_append.1 mem with mem | mem
      · exact ⟨c, List.mem_cons_self, below d mem⟩
      · obtain ⟨c', mem', sub⟩ := laterBelow d mem
        exact ⟨c', List.mem_cons_of_mem c mem', sub⟩
    · intro d memd e meme
      obtain ⟨c', mem', sub⟩ := laterBelow e meme
      exact (right c' mem').precedes (below d memd) sub

/-- Hooks are called in the order of the source, and so on no node twice. -/
theorem laid_descend (c : Cursor) (s : σ) : Laid c (v.descend c s).1 := by
  have children (s : σ) :=
    v.pairwise_descendAll (pairwise_apart_namedChildren c) (fun d mem s => laid_descend d s) s
  have under (s : σ) (d : Cursor) (mem : d ∈ (v.descendAll c.namedChildren s).1) :
      ∃ i, i :: c.node.address <:+ d.node.address := by
    obtain ⟨e, child, sub⟩ := (children s).1 d mem
    obtain ⟨i, address⟩ := address_of_mem_namedChildren child
    exact ⟨i, address ▸ sub⟩
  have all (s : σ) : Laid c (v.descendAll c.namedChildren s).1 := by
    refine ⟨fun d mem => ?_, (children s).2⟩
    obtain ⟨i, sub⟩ := under s d mem
    exact (List.suffix_cons i _).trans sub
  rw [descend]
  split
  · next hook _ =>
    split
    · refine ⟨List.forall_mem_cons.2 ⟨List.suffix_refl _, (all _).below⟩,
        List.pairwise_cons.2 ⟨fun d mem => ?_, (all _).ordered⟩⟩
      obtain ⟨i, sub⟩ := under _ d mem
      exact precedes_of_address sub
    · exact ⟨by simp, List.pairwise_singleton _ _⟩
  · split
    · exact ⟨by simp, .nil⟩
    · exact all s
termination_by c.node.tree.size
decreasing_by exact size_lt_of_mem_namedChildren mem

end Visitor

end ExportTrail
