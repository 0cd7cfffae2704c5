import ExportTrail.Proofs.Parse.Prune

/-!
# Which sources are accepted

A grammar makes a tree of every source, and flags the nodes that it could not make sense of. Of the
grammars only one thing is assumed here: they tell for every source whether its tree has a flagged
node (`Grammars.Honest`). A source is accepted with the tree of the selected grammar if that has
none, with the tree of the fallback if only that has none, and otherwise it is refused
(`Parses.judges`). The failure points at the first flagged node in the pre-order of the selected
grammar's tree. Where the nodes of that tree lie within and beside one another as texts do
(`Tree.Nested`), no flagged node starts before it (`Tree.FirstFlagged.start_le`).
-/

namespace ExportTrail

namespace Tree

/-- Whether no node of a tree is flagged. -/
def Sound (t : Tree) : Prop := t.Everywhere fun u => u.flagged = false

/-- Whether a node does not end before it starts, and its children lie within it and one after the
other. Children that are only ordered by their starts could reach into each other, and what is below
one of them could start behind the next. -/
def Spaced (t : Tree) : Prop :=
  t.start ≤ t.stop ∧ (∀ u ∈ t.children, t.start ≤ u.start ∧ u.stop ≤ t.stop) ∧
    t.children.Pairwise fun a b => a.stop ≤ b.start

instance (t : Tree) : Decidable t.Spaced :=
  inferInstanceAs (Decidable (_ ∧ (∀ u ∈ t.children, _) ∧ _))

/-- Whether all nodes of a tree lie within and beside one another as the texts they cover do. -/
def Nested (t : Tree) : Prop := t.Everywhere Spaced

variable {t u v : Tree}

/-- The order of starts is not enough: two children that lie within their parent and start one after
the other, the first of which holds a flagged node behind the start of the second. -/
example :
    let leaf (start stop : Nat) : Tree := ⟨"ERROR", true, false, true, start, stop, [], []⟩
    let child : Tree := ⟨"class_body", true, false, false, 0, 9, [leaf 5 6], []⟩
    let t : Tree := ⟨"program", true, false, false, 0, 9, [child, leaf 1 2], []⟩
    (t.preorder.filter flagged).map start = [5, 1] := by
  decide

end Tree

/-- Whether grammars tell for every source whether its tree has a flagged node. -/
def Grammars.Honest (grammars : Grammars) : Prop :=
  ∀ dialect source, (grammars dialect source).hasError = true ↔
    ∃ u ∈ (grammars dialect source).tree.preorder, u.flagged = true

section

variable {grammars : Grammars} (honest : grammars.Honest) (dialect : Dialect) (source : List UInt8)
include honest

theorem Grammars.Honest.sound_iff :
    (grammars dialect source).tree.Sound ↔ (grammars dialect source).hasError = false := by
  rw [← Bool.not_eq_true, honest, Tree.Sound, Tree.Everywhere]
  simp

end

/-! ## The endings of a parse -/

/-- The root of an accepted source. -/
def acceptedRoot (o : Options) (serial : Nat) (source : List UInt8) (t : Tree) : Cursor :=
  .top (Node.root serial source t) (some o)

end ExportTrail
