import ExportTrail.Proofs.Export.Agenda
import ExportTrail.Proofs.Parse.Options

/-!
# Nodes inside a module

`Cursor.Inside` is for cursors that were reached from another one step by step, each time to a
child. All that an export statement contributes to a search stands inside its module
(`inside_of_matches`, `inside_of_mem_statements`).

The options of a node are those of the nearest program above it. Where the root of a tree is the
only program in it, as it is in what a grammar makes of a sound source (`Grammars.Rooted`), the
options of a node are those of the root (`options_of_inside`).
-/

namespace ExportTrail

namespace Tree

/-- A child stands in the tree with all below it. -/
theorem preorder_subset_preorderAll {t : Tree} {ts : List Tree} (h : t ∈ ts) :
    t.preorder ⊆ preorderAll ts := by
  induction ts with
  | nil => cases h
  | cons u ts ih =>
    rw [preorderAll]
    rcases List.mem_cons.1 h with rfl | h
    · exact List.subset_append_left _ _
    · exact List.subset_append_of_subset_right _ (ih h)

theorem mem_preorder_self (t : Tree) : t ∈ t.preorder := by
  cases t
  exact List.mem_cons_self

theorem preorderAll_children_subset (t : Tree) : preorderAll t.children ⊆ t.preorder := by
  cases t
  exact List.subset_cons_self _ _

/-- Whether no node below the root of a tree is a program. -/
def NoProgramBelow (t : Tree) : Prop :=
  ∀ u ∈ preorderAll t.children, u.kind ≠ Cursor.programKind

end Tree

/-- A field names a child. -/
theorem Node.mem_children_of_field? {n m : Node} {name : String} (h : n.field? name = some m) :
    m ∈ n.children := by
  rw [field?] at h
  split at h
  · next i _ =>
    obtain ⟨t, ht, rfl⟩ := Option.map_eq_some_iff.1 h
    rw [children, List.mem_mapIdx]
    obtain ⟨lt, rfl⟩ := List.getElem?_eq_some_iff.1 ht
    exact ⟨i, lt, rfl⟩
  · cases h

/-- Whether in every tree without flagged nodes the root is a program, and no other node is. -/
def Grammars.Rooted (grammars : Grammars) : Prop :=
  ∀ dialect source, (grammars dialect source).hasError = false →
    (grammars dialect source).tree.kind = Cursor.programKind ∧
      (grammars dialect source).tree.NoProgramBelow

namespace Cursor

/-- Whether a cursor was reached from another one by going from child to child. -/
inductive Inside (c : Cursor) : Cursor → Prop
  | refl : Inside c c
  | child {p : Cursor} {n : Node} (up : Inside c p) (mem : n ∈ p.node.children) :
    Inside c (.via p n)

namespace Inside

variable {a b c d : Cursor}

theorem trans (h : Inside a b) (h' : Inside b c) : Inside a c := by
  induction h' with
  | refl => exact h
  | child _ mem ih => exact .child ih mem

theorem of_mem_namedChildren (h : d ∈ c.namedChildren) : Inside c d := by
  obtain ⟨n, mem, rfl⟩ := List.mem_map.1 h
  exact .child .refl (List.mem_filter.1 mem).1

theorem of_mem_namedChildrenOf {kind : String} (h : d ∈ c.namedChildrenOf kind) : Inside c d :=
  of_mem_namedChildren (List.mem_filter.1 h).1

theorem of_field? {name : String} (h : c.field? name = some d) : Inside c d := by
  obtain ⟨n, named, rfl⟩ := Option.map_eq_some_iff.1 h
  exact .child .refl (Node.mem_children_of_field? named)

/-- The trees of all cursors inside are below the tree of the outermost. -/
theorem eq_or_preorder_subset (h : Inside c d) :
    d = c ∨ d.node.tree.preorder ⊆ Tree.preorderAll c.node.tree.children := by
  induction h with
  | refl => exact .inl rfl
  | @child p n up mem ih =>
    right
    obtain ⟨i, lt, rfl⟩ := List.mem_mapIdx.1 mem
    have step : p.node.tree.children[i].preorder ⊆ Tree.preorderAll p.node.tree.children :=
      Tree.preorder_subset_preorderAll (List.getElem_mem lt)
    rcases ih with rfl | ih
    · exact step
    · exact List.Subset.trans step
        (List.Subset.trans (Tree.preorderAll_children_subset p.node.tree) ih)

/-- Going to a child adds a cursor to the way, so that no cursor is above itself. -/
theorem length_ancestors_le (h : Inside c d) : c.ancestors.length ≤ d.ancestors.length := by
  induction h with
  | refl => exact Nat.le_refl _
  | child _ _ ih => exact Nat.le_succ_of_le ih

end Inside

/-- If only the root of a tree can be a program, all nodes have the options of the root. -/
theorem options_of_inside {c d : Cursor} (single : c.node.tree.NoProgramBelow) (h : Inside c d) :
    d.options = c.options := by
  induction h with
  | refl => rfl
  | @child p n up mem ih =>
    have inner : n.kind ≠ programKind := by
      rcases (up.child mem).eq_or_preorder_subset with same | sub
      · have le := up.length_ancestors_le
        rw [← same, ancestors, List.length_cons] at le
        omega
      · exact single _ (sub (Tree.mem_preorder_self _))
    rw [options_via, if_neg inner, ih]

end Cursor

namespace Export

open Cursor

theorem inside_of_mem_statements {program s : Cursor} (h : s ∈ statements program) :
    Inside program s := by
  have closed (c d : Cursor) (h : Inside program c) (mem : d ∈ c.namedChildren) :
      Inside program d :=
    h.trans (.of_mem_namedChildren mem)
  exact mem_statements_induction .refl closed h

/-- What a statement gives to a name stands inside it. -/
theorem inside_of_matches {name : String} {s found : Cursor} (h : Matches name s found) :
    Inside s found := by
  cases h with
  | declaration form declares =>
    obtain ⟨declaration, field, declared⟩ := Option.bind_eq_some_iff.1 declares
    have outer := Inside.of_field? field
    rw [declared?] at declared
    split at declared
    · split at declared
      · cases declared
        exact outer
      · cases declared
    · obtain ⟨declarator, mem, value⟩ := List.mem_filterMap.1 (List.mem_of_getLast? declared)
      rw [initialiser?] at value
      split at value
      · split at value
        · exact outer.trans ((Inside.of_mem_namedChildrenOf mem).trans (.of_field? value))
        · cases value
      · cases value
  | specifier form unsourced exports =>
    obtain ⟨clause, hclause, mem⟩ := List.mem_flatMap.1 exports
    obtain ⟨specifier, hspecifier, eq⟩ := List.mem_filterMap.1 mem
    rw [specifier?] at eq
    split at eq
    · cases eq
    · obtain ⟨inner, field, same⟩ := Option.map_eq_some_iff.1 eq
      cases same
      exact (Inside.of_mem_namedChildrenOf hclause).trans
        ((Inside.of_mem_namedChildrenOf hspecifier).trans (.of_field? field))
  | default form asked exports =>
    rw [defaultValue] at exports
    cases declaration : s.field? "declaration" with
    | some d =>
      rw [declaration] at exports
      cases exports
      exact .of_field? declaration
    | none =>
      rw [declaration] at exports
      exact .of_field? exports
  | namespaced form mem named => exact .of_mem_namedChildrenOf mem

/-- What a module contributes to a search stands inside it. -/
theorem inside_of_localMatch {program found : Cursor} {name : String}
    (h : LocalMatch program name found) : Inside program found := by
  obtain ⟨s, mem, hit⟩ := h
  exact (inside_of_mem_statements mem).trans (inside_of_matches hit)

end Export

namespace Workspace

/-- A module that is loaded is a program, and nothing inside it is. -/
theorem load_rooted {ws : Workspace} (rooted : ws.grammars.Rooted) {o : Options} {m : Path}
    {serial : Nat} {program : Cursor} (h : (ws.load serial m o).outcome = .ok program) :
    program.options = o.forFile m ∧ program.node.tree.NoProgramBelow := by
  obtain ⟨dialect, source, sound, rfl⟩ := load_ok h
  obtain ⟨root, single⟩ := rooted dialect source sound
  have kind : (Node.root serial source (ws.grammars dialect source).tree).kind =
      Cursor.programKind := root
  refine ⟨?_, single⟩
  rw [Cursor.options_top, if_pos kind, Option.getD_some]

end Workspace

end ExportTrail
