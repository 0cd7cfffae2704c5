import ExportTrail.Text.Utf8
import ExportTrail.Tree

/-!
# Nodes

A `Node` is a place in a parsed source: the parse it belongs to, the source, the way down from the
root, and the tree that hangs there. Two nodes are the same when they are at the same place of the
same parse, whatever their text.
-/

namespace ExportTrail

/-- A place in a parsed source. -/
structure Node where
  /-- The serial number of the parse. -/
  parse : Nat
  /-- The bytes of the source. -/
  source : List UInt8
  /-- The child positions on the way down from the root, the last one first. -/
  address : List Nat
  tree : Tree

namespace Node

/-- The root of a parse. -/
def root (parse : Nat) (source : List UInt8) (tree : Tree) : Node := ⟨parse, source, [], tree⟩

/-- Whether two nodes are at the same place of the same parse. -/
def same (a b : Node) : Bool := a.parse = b.parse && a.address = b.address

/-- The kind of a node. -/
def kind (n : Node) : String := n.tree.kind

/-- The bytes that a node covers. -/
def bytes (n : Node) : List UInt8 := (n.source.take n.tree.stop).drop n.tree.start

/-- The text that a node covers. -/
def text (n : Node) : String := String.ofList (Text.Utf8.decodeLossy n.bytes)

/-- The number of lines before the one on which a node starts. -/
def row (n : Node) : Nat := (n.source.take n.tree.start).count 0x0A

/-- The number of bytes before a node on its first line. -/
def column (n : Node) : Nat :=
  ((n.source.take n.tree.start).reverse.takeWhile (· ≠ 0x0A)).length

/-- The number of the line on which a node starts. -/
def line (n : Node) : Nat := n.row + 1

/-- The child at a position, given its tree. -/
def childAt (n : Node) (i : Nat) (t : Tree) : Node := ⟨n.parse, n.source, i :: n.address, t⟩

/-- All children, in order. -/
def children (n : Node) : List Node := n.tree.children.mapIdx n.childAt

/-- The named children, in order. -/
def namedChildren (n : Node) : List Node := n.children.filter (·.tree.named)

/-- The child that a field names. -/
def field? (n : Node) (name : String) : Option Node :=
  match n.tree.fields.lookup name with
  | some i => (n.tree.children[i]?).map (n.childAt i)
  | none => none

/-- Whether an anonymous child is of a given kind: a keyword or a punctuation mark. -/
def hasToken (n : Node) (token : String) : Bool :=
  n.tree.children.any fun t => !t.named && t.kind == token

/-- The named children have together fewer nodes than their parent. -/
theorem sizeAll_namedChildren_lt (n : Node) :
    Tree.sizeAll (n.namedChildren.map Node.tree) < n.tree.size := by
  have trees : n.children.map Node.tree = n.tree.children := by
    apply List.ext_getElem <;> simp [children, childAt]
  have sub : (n.namedChildren.map Node.tree).Sublist n.tree.children := by
    rw [← trees]
    exact List.filter_sublist.map _
  have le := Tree.sizeAll_le_of_sublist sub
  have all := n.tree.sizeAll_children
  omega

end Node

end ExportTrail
