/-!
# Trees of parsed sources

A `Tree` is one node of a parsed source with everything below it. Nodes are of a `kind`; they are
named or anonymous, and they may be flagged as errors or as missing from the source. Besides its
children, in order, a node has fields, which name some of them.
-/

namespace ExportTrail

/-- A node of a parsed source and everything below it. -/
structure Tree where
  kind : String
  /-- Whether the grammar names the node; keywords and punctuation are anonymous. -/
  named : Bool
  /-- Whether the parser put the node where the source has none. -/
  missing : Bool
  /-- Whether the node covers text that the grammar does not accept. -/
  error : Bool
  /-- The offset of the first byte. -/
  start : Nat
  /-- The offset after the last byte. -/
  stop : Nat
  children : List Tree
  /-- The positions of the children that have a field name. -/
  fields : List (String × Nat)

namespace Tree

/-- Whether a node is an error or missing. -/
def flagged (t : Tree) : Bool := t.error || t.missing

mutual

/-- The node and all nodes below it, parents before children and children in order. -/
def preorder : Tree → List Tree
  | ⟨kind, named, missing, error, start, stop, children, fields⟩ =>
    ⟨kind, named, missing, error, start, stop, children, fields⟩ :: preorderAll children

/-- The nodes of several trees in a row. -/
def preorderAll : List Tree → List Tree
  | [] => []
  | t :: ts => preorder t ++ preorderAll ts

end

mutual

/-- The number of nodes of a tree. -/
def size : Tree → Nat
  | ⟨_, _, _, _, _, _, children, _⟩ => sizeAll children + 1

/-- The number of nodes of several trees. -/
def sizeAll : List Tree → Nat
  | [] => 0
  | t :: ts => size t + sizeAll ts

end

theorem size_pos (t : Tree) : 0 < t.size := by
  cases t
  simp [size]

@[simp] theorem sizeAll_nil : sizeAll [] = 0 := by
  simp [sizeAll]

@[simp] theorem sizeAll_cons (t : Tree) (ts : List Tree) :
    sizeAll (t :: ts) = t.size + sizeAll ts := by
  simp [sizeAll]

@[simp] theorem sizeAll_append (ts us : List Tree) :
    sizeAll (ts ++ us) = sizeAll ts + sizeAll us := by
  induction ts with
  | nil => simp
  | cons t ts ih => simp [ih, Nat.add_assoc]

/-- Fewer trees have fewer nodes. -/
theorem sizeAll_le_of_sublist {ts us : List Tree} (h : ts.Sublist us) :
    sizeAll ts ≤ sizeAll us := by
  induction h with
  | slnil => simp
  | cons t _ ih => rw [sizeAll_cons]; omega
  | cons_cons t _ ih => rw [sizeAll_cons, sizeAll_cons]; omega

/-- The children of a node have together one node less than the node itself. -/
theorem sizeAll_children (t : Tree) : sizeAll t.children + 1 = t.size := by
  cases t
  simp [size]

end Tree

/-- The result of parsing a source: the tree and whether anything in it is flagged. -/
structure Parse where
  tree : Tree
  hasError : Bool

namespace Parse

/-- The first flagged node of a parse that has one, parents before children. -/
def firstFlagged? (p : Parse) : Option Tree :=
  if p.hasError then some ((p.tree.preorder.find? Tree.flagged).getD p.tree) else none

end Parse

end ExportTrail
