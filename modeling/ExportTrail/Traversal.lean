import ExportTrail.Cursor

/-!
# Shallow traversal

`traverse` visits a node and what is below it in the order of the source, without entering the
bodies of functions, classes and namespaces. A `Visitor` has hooks for some kinds of nodes; a hook
sees the node, may change the visitor's state, and decides whether the traversal goes below the
node. The nodes still to be visited are kept on one stack.
-/

namespace ExportTrail

/-- The kinds of nodes that are not entered unless a hook asks for it: they hold no binding of the
module. -/
def bodyKinds : List String :=
  ["function_declaration", "function_expression", "function", "generator_function_declaration",
    "generator_function", "arrow_function", "method_definition", "class_declaration",
    "abstract_class_declaration", "class", "internal_module", "module", "ambient_declaration"]

/-- Hooks for some kinds of nodes, over a state of type `σ`. A hook gives the next state and says
whether to go below the node. -/
structure Visitor (σ : Type) where
  hook : String → Option (Cursor → σ → Bool × σ)

namespace Visitor

/-- What a visitor does at one node: whether to go below it, and the next state. -/
def visit {σ : Type} (v : Visitor σ) (c : Cursor) (s : σ) : Bool × σ :=
  match v.hook c.kind with
  | some hook => hook c s
  | none => (!bodyKinds.contains c.kind, s)

/-- The number of nodes that a stack stands for. -/
def stackSize (stack : List Cursor) : Nat := Tree.sizeAll (stack.map fun c => c.node.tree)

theorem stackSize_namedChildren_lt (c : Cursor) :
    stackSize c.namedChildren < c.node.tree.size := by
  have h := c.node.sizeAll_namedChildren_lt
  simpa [stackSize, Cursor.namedChildren, Function.comp_def, Cursor.node] using h

/-- Visits the nodes of the stack and what is below them, the top of the stack first. -/
def traverseStack {σ : Type} (v : Visitor σ) : List Cursor → σ → σ
  | [], s => s
  | c :: stack, s =>
    if (v.visit c s).1 then v.traverseStack (c.namedChildren ++ stack) (v.visit c s).2
    else v.traverseStack stack (v.visit c s).2
termination_by stack => stackSize stack
decreasing_by
  · have := stackSize_namedChildren_lt c
    simp only [stackSize, List.map_append, Tree.sizeAll_append, List.map_cons, Tree.sizeAll_cons]
      at this ⊢
    omega
  · have := c.node.tree.size_pos
    simp only [stackSize, List.map_cons, Tree.sizeAll_cons]
    omega

/-- Visits a node and what is below it. -/
def traverse {σ : Type} (v : Visitor σ) (c : Cursor) (s : σ) : σ := v.traverseStack [c] s

end Visitor

end ExportTrail
