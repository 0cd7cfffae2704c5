import ExportTrail.Export
import ExportTrail.Proofs.Traversal.Recursion

/-!
# The export statements of a module

The statements that are gathered from a module are those that are reached from its root without
passing an export statement or a body (`mem_statements_iff`). Each is gathered once, in the order of
the source.
-/

namespace ExportTrail.Export

variable {c s : Cursor}

/-- Whether the search for export statements goes below a node. -/
def Entered (c : Cursor) : Prop := c.kind ≠ statementKind ∧ c.kind ∉ bodyKinds

theorem visit_statement (h : c.kind = statementKind) (found : List Cursor) :
    collector.visit c found = (false, found ++ [c]) := by
  simp [Visitor.visit, collector, h]

theorem visit_other (h : c.kind ≠ statementKind) (found : List Cursor) :
    collector.visit c found = (!bodyKinds.contains c.kind, found) := by
  simp [Visitor.visit, collector, h]

/-- Induction along a traversal: from the rest of a stack, and from the rest with the children of
its top, to the whole stack. -/
theorem stack_induction {P : List Cursor → Prop} (nil : P [])
    (cons : ∀ c stack, P stack → P (c.namedChildren ++ stack) → P (c :: stack)) :
    ∀ stack, P stack
  | [] => nil
  | c :: stack =>
    cons c stack (stack_induction nil cons stack)
      (stack_induction nil cons (c.namedChildren ++ stack))
termination_by stack => Visitor.stackSize stack
decreasing_by
  · have := c.node.tree.size_pos
    simp only [Visitor.stackSize, List.map_cons, Tree.sizeAll_cons]
    omega
  · have := Visitor.stackSize_namedChildren_lt c
    simp only [Visitor.stackSize, List.map_append, Tree.sizeAll_append, List.map_cons,
      Tree.sizeAll_cons] at this ⊢
    omega

/-- What is gathered from a stack are the statements that are reached from its nodes. -/
theorem mem_traverseStack_iff {stack found : List Cursor} :
    s ∈ collector.traverseStack stack found ↔
      s ∈ found ∨ s.kind = statementKind ∧ ∃ c ∈ stack, c.Through Entered s := by
  induction stack using stack_induction generalizing found with
  | nil => simp [Visitor.traverseStack]
  | cons c stack later below =>
    rw [Visitor.traverseStack]
    simp only [List.mem_cons, exists_eq_or_imp, Cursor.through_iff c s]
    by_cases statement : c.kind = statementKind
    · have shut : ¬ Entered c := fun entered => entered.1 statement
      have only : s.kind = statementKind ∧ s = c ↔ s = c := and_iff_right_of_imp (· ▸ statement)
      rw [visit_statement statement, if_neg Bool.false_ne_true, later, List.mem_append,
        List.mem_singleton]
      simp only [shut, false_and, or_false, and_or_left, only, or_assoc]
    · have other : ¬ (s.kind = statementKind ∧ s = c) := fun both => statement (both.2 ▸ both.1)
      rw [visit_other statement]
      by_cases body : c.kind ∈ bodyKinds
      · have shut : ¬ Entered c := fun entered => entered.2 body
        rw [if_neg (by simpa using body), later]
        simp only [shut, false_and, or_false, and_or_left, other, false_or]
      · have entered : Entered c := ⟨statement, body⟩
        rw [if_pos (by simpa using body), below]
        simp only [entered, true_and, and_or_left, other, false_or, List.mem_append, or_and_right,
          exists_or]

/-- The statements of a module are the export statements that are reached from its root, on a way
that leads through neither export statements nor bodies. -/
theorem mem_statements_iff {root : Cursor} :
    s ∈ statements root ↔ s.kind = statementKind ∧ root.Through Entered s := by
  rw [statements, Visitor.traverse, mem_traverseStack_iff]
  simp

theorem kind_of_mem_statements {program : Cursor} (h : s ∈ statements program) :
    s.kind = statementKind :=
  (mem_statements_iff.1 h).1

/-- What is gathered are the nodes that the hook is called on. -/
theorem traverseStack_eq_calls (stack found : List Cursor) :
    collector.traverseStack stack found = found ++ (collector.descendAll stack found).1 := by
  induction stack using stack_induction generalizing found with
  | nil => simp [Visitor.traverseStack]
  | cons c stack later below =>
    rw [Visitor.traverseStack, Visitor.descendAll_visit]
    by_cases statement : c.kind = statementKind
    · have called : (collector.hook c.kind).isSome = true := by simp [collector, statement]
      rw [visit_statement statement, if_neg Bool.false_ne_true, if_neg Bool.false_ne_true, later,
        List.append_assoc]
      simp only [called, if_true]
    · have uncalled : (collector.hook c.kind).isSome = false := by simp [collector, statement]
      rw [visit_other statement]
      simp only [uncalled, Bool.false_eq_true, if_false, List.nil_append]
      split
      · exact below found
      · exact later found

theorem statements_eq_calls (root : Cursor) :
    statements root = (collector.descend root []).1 := by
  rw [statements, Visitor.traverse, traverseStack_eq_calls, Visitor.descendAll_singleton,
    List.nil_append]

theorem pairwise_statements (root : Cursor) :
    (statements root).Pairwise fun a b => a.node.Precedes b.node := by
  rw [statements_eq_calls]
  exact (collector.laid_descend root []).ordered

theorem nodup_statements (root : Cursor) : (statements root).Nodup := by
  refine (pairwise_statements root).imp fun {a b} before same => ?_
  rw [same] at before
  exact List.lt_irrefl _ before

/-- **The traversal is the recursion, and it gathers the outermost export statements.** For every
visitor, whatever state its hooks keep and whatever they answer, the traversal with one stack calls
the hooks on the same nodes, reached in the same way, in the same order and with the same states as
the recursion: every call is on a node of the hook's kind that is reached from the first one through
named children, and the calls are in the order of the source, none on a node twice. In particular,
the statements of a module are, in this order, the export statements that are reached from its root
through named children on a way with neither export statements nor bodies on it, and nothing
else. -/
theorem traverse_eq_recursion :
    (∀ (σ : Type) (v : Visitor σ) (c : Cursor) (s : σ),
      v.traverse c s = (v.descend c s).2 ∧
      v.noting.traverse c (s, []) = ((v.descend c s).2, (v.descend c s).1) ∧
      (v.descend c s).1.Pairwise (fun a b => a.node.Precedes b.node) ∧
      ∀ d ∈ (v.descend c s).1, (v.hook d.kind).isSome ∧ c.Through (fun _ => True) d) ∧
    ∀ root : Cursor,
      (statements root).Pairwise (fun a b => a.node.Precedes b.node) ∧ (statements root).Nodup ∧
      ∀ s, s ∈ statements root ↔ s.kind = statementKind ∧ root.Through Entered s := by
  refine ⟨fun σ v c s => ?_, fun root => ⟨pairwise_statements root, nodup_statements root,
    fun s => mem_statements_iff⟩⟩
  obtain ⟨last, calls⟩ := v.traverse_noting c s
  refine ⟨last, calls, (v.laid_descend c s).ordered, fun d mem => ?_⟩
  rw [← Visitor.descendAll_singleton] at mem
  simpa using v.through_of_mem_descendAll mem

/-- A statement inside another one, one in a function, and one in a block. -/
def nestedTree : Tree :=
  let leaf (kind : String) : Tree := ⟨kind, true, false, false, 0, 0, [], []⟩
  let branch (kind : String) (child : Tree) : Tree :=
    ⟨kind, true, false, false, 0, 0, [child], []⟩
  ⟨"program", true, false, false, 0, 0,
    [branch "export_statement" (leaf "export_statement"),
      branch "function_declaration" (leaf "export_statement"),
      branch "statement_block" (leaf "export_statement")], []⟩

/-- Of these, the outer statement and the one in the block are gathered. -/
theorem traverse_eq_recursion_nested :
    let root : Cursor := .top (Node.root 0 [] nestedTree) none
    (statements root).map (·.node.address) = [[0], [0, 2]] ∧
      ∀ d ∈ (collector.descend root []).1,
        (collector.hook d.kind).isSome ∧ root.Through (fun _ => True) d := by
  intro root
  constructor
  · simp [root, statements, Visitor.traverse, Visitor.traverseStack, Visitor.visit, collector,
      nestedTree, Cursor.kind, Node.kind, Cursor.node, Node.root, statementKind, bodyKinds,
      Cursor.namedChildren, Node.namedChildren, Node.children, Node.childAt]
  · obtain ⟨-, -, -, calls⟩ := traverse_eq_recursion.1 _ collector root []
    exact calls

end ExportTrail.Export
