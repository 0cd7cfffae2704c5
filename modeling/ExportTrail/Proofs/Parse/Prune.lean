import ExportTrail.Proofs.Parse.Inside
import Mathlib.Data.List.Forall2

/-!
# Pruned trees

`Tree.prune` leaves out nodes of a tree, each with everything below it. What is left of a node keeps
its kind and its place in the source; its fields name the children that they named before, and a
field whose child is left out is lost.

`Cursor.Pruned` says that one cursor stands in a pruned tree where another stands in the whole one,
of which a condition holds everywhere. It is passed on to named children (`Pruned.namedChildren`)
and along fields that name no child that is left out (`Pruned.field?`), and what is asked of a node
is the same on both sides.
-/

namespace ExportTrail

/-! ## Related options -/

section

variable {α β γ δ : Type} {R : α → β → Prop} {S : γ → δ → Prop} {a b : Option α} {a' b' : Option β}

theorem isSome_eq_of_rel (h : Option.Rel R a a') : a'.isSome = a.isSome := by
  cases h <;> rfl

theorem rel_getD (h : Option.Rel R a a') {x : α} {x' : β} (fallback : R x x') :
    R (a.getD x) (a'.getD x') := by
  cases h with
  | none => exact fallback
  | some h => exact h

theorem rel_orElse (h : Option.Rel R a a') (later : Option.Rel R b b') :
    Option.Rel R (a.orElse fun _ => b) (a'.orElse fun _ => b') := by
  cases h with
  | none => exact later
  | some h => exact .some h

theorem rel_bind (h : Option.Rel R a a') {f : α → Option γ} {g : β → Option δ}
    (each : ∀ x x', R x x' → Option.Rel S (f x) (g x')) : Option.Rel S (a.bind f) (a'.bind g) := by
  cases h with
  | none => exact .none
  | some h => exact each _ _ h

theorem bind_eq_of_rel (h : Option.Rel R a a') {f : α → Option γ} {g : β → Option γ}
    (same : ∀ x x', R x x' → g x' = f x) : a'.bind g = a.bind f := by
  cases h with
  | none => rfl
  | some h => exact same _ _ h

end

namespace Tree

/-! ## Pruning -/

/-- How many of the trees before a position are kept. -/
def keptBefore (drop : Tree → Bool) (ts : List Tree) (i : Nat) : Nat :=
  (ts.take i).countP fun t => !drop t

/-- The fields of a node without those of children that are left out. -/
def keptFields (drop : Tree → Bool) (ts : List Tree) (fields : List (String × Nat)) :
    List (String × Nat) :=
  fields.filterMap fun f =>
    if ts[f.2]?.any drop then none else some (f.1, keptBefore drop ts f.2)

mutual

/-- The tree without the nodes below its root that are to be dropped. -/
def prune (drop : Tree → Bool) : Tree → Tree
  | ⟨kind, named, missing, error, start, stop, children, fields⟩ =>
    ⟨kind, named, missing, error, start, stop, pruneAll drop children,
      keptFields drop children fields⟩

/-- The trees that are not to be dropped, each pruned. -/
def pruneAll (drop : Tree → Bool) : List Tree → List Tree
  | [] => []
  | t :: ts => if drop t then pruneAll drop ts else prune drop t :: pruneAll drop ts

end

variable (drop : Tree → Bool) (t : Tree)

@[simp] theorem kind_prune : (t.prune drop).kind = t.kind := by cases t; rw [prune]

@[simp] theorem named_prune : (t.prune drop).named = t.named := by cases t; rw [prune]

@[simp] theorem start_prune : (t.prune drop).start = t.start := by cases t; rw [prune]

@[simp] theorem stop_prune : (t.prune drop).stop = t.stop := by cases t; rw [prune]

@[simp] theorem children_prune : (t.prune drop).children = pruneAll drop t.children := by
  cases t; rw [prune]

@[simp] theorem fields_prune : (t.prune drop).fields = keptFields drop t.children t.fields := by
  cases t; rw [prune]

variable {drop t}

/-- A child that is kept is found behind the kept ones before it. -/
theorem getElem?_pruneAll {ts : List Tree} {i : Nat} (h : ts[i]? = some t) (kept : drop t = false) :
    (pruneAll drop ts)[keptBefore drop ts i]? = some (t.prune drop) := by
  induction ts generalizing i with
  | nil => simp at h
  | cons u ts ih =>
    cases i with
    | zero =>
      obtain rfl : u = t := by simpa using h
      simp [pruneAll, kept, keptBefore]
    | succ i =>
      have later := ih (by simpa using h)
      cases dropped : drop u <;>
        simpa [pruneAll, keptBefore, dropped] using later

/-- Behind the last child nothing is found. -/
theorem getElem?_pruneAll_none {ts : List Tree} {i : Nat} (h : ts[i]? = none) :
    (pruneAll drop ts)[keptBefore drop ts i]? = none := by
  have length (ts : List Tree) : (pruneAll drop ts).length = ts.countP fun t => !drop t := by
    induction ts with
    | nil => rw [pruneAll]; rfl
    | cons t ts ih => cases dropped : drop t <;> simp [pruneAll, dropped, ih]
  rw [List.getElem?_eq_none_iff] at h ⊢
  exact Nat.le_of_eq (by rw [length, keptBefore, List.take_of_length_le h])

theorem lookup_keptFields_none {ts : List Tree} {fields : List (String × Nat)} {name : String}
    (h : fields.lookup name = none) : (keptFields drop ts fields).lookup name = none := by
  rw [List.lookup_eq_none_iff] at h ⊢
  intro f mem
  obtain ⟨g, inner, same⟩ := List.mem_filterMap.1 mem
  split at same
  · cases same
  · cases same
    exact h g inner

theorem lookup_keptFields {ts : List Tree} {fields : List (String × Nat)} {name : String} {i : Nat}
    (h : fields.lookup name = some i) (kept : ts[i]?.any drop = false) :
    (keptFields drop ts fields).lookup name = some (keptBefore drop ts i) := by
  induction fields with
  | nil => cases h
  | cons f fields ih =>
    obtain ⟨own, j⟩ := f
    rw [List.lookup_cons] at h
    rw [keptFields, List.filterMap_cons]
    split at h
    · next here =>
      obtain rfl : j = i := by simpa using h
      simp [kept, List.lookup_cons, here]
    · next other =>
      have later := ih h
      rw [keptFields] at later
      dsimp only
      split
      · exact later
      · next g found =>
        split at found
        · cases found
        · cases found
          rw [List.lookup_cons, other]
          exact later

/-! ## What holds everywhere in a tree -/

/-- Whether a condition is met by a node and by all nodes below it. -/
def Everywhere (P : Tree → Prop) (t : Tree) : Prop := ∀ u ∈ t.preorder, P u

variable {P : Tree → Prop}

theorem Everywhere.here (h : t.Everywhere P) : P t := h t t.mem_preorder_self

theorem Everywhere.child (h : t.Everywhere P) {u : Tree} (mem : u ∈ t.children) : u.Everywhere P :=
  fun v below => h v (preorderAll_children_subset t (preorder_subset_preorderAll mem below))

/-- The child that a field names. -/
def field? (name : String) (t : Tree) : Option Tree :=
  (t.fields.lookup name).bind fun i => t.children[i]?

/-- Whether a field names no child that is left out. -/
def FieldKept (drop : Tree → Bool) (name : String) (t : Tree) : Prop :=
  ∀ child ∈ t.field? name, drop child = false

end Tree

namespace Cursor

variable {drop : Tree → Bool} {P : Tree → Prop} {c c' : Cursor}

/-! ## Cursors in pruned trees -/

/-- Whether a cursor stands in a pruned tree where another one stands in the whole tree, of which a
condition holds everywhere. -/
structure Pruned (drop : Tree → Bool) (P : Tree → Prop) (c c' : Cursor) : Prop where
  tree : c'.node.tree = c.node.tree.prune drop
  source : c'.node.source = c.node.source
  parse : c'.node.parse = c.node.parse
  options : c'.options = c.options
  everywhere : c.node.tree.Everywhere P

namespace Pruned

/-- The root of a pruned tree. -/
theorem top {t : Tree} (h : t.Everywhere P) (serial : Nat) (source : List UInt8)
    (o : Option Options) :
    Pruned drop P (.top (.root serial source t) o)
      (.top (.root serial source (t.prune drop)) o) where
  tree := rfl
  source := rfl
  parse := rfl
  options := by
    have same : (Node.root serial source (t.prune drop)).kind = (Node.root serial source t).kind :=
      t.kind_prune drop
    rw [options_top, options_top, same]
  everywhere := h

theorem kind (h : Pruned drop P c c') : c'.kind = c.kind := by
  simp [Cursor.kind, Node.kind, h.tree]

theorem text (h : Pruned drop P c c') : c'.text = c.text := by
  simp [Cursor.text, Node.text, Node.bytes, h.tree, h.source]

theorem bindingName (h : Pruned drop P c c') : c'.bindingName = c.bindingName := by
  rw [Cursor.bindingName, Cursor.bindingName, h.kind, h.text]

theorem stringValue? (h : Pruned drop P c c') : c'.stringValue? = c.stringValue? := by
  rw [Cursor.stringValue?, Cursor.stringValue?, h.kind, h.text]

/-- What holds of a whole tree holds where the cursor stands. -/
theorem here (h : Pruned drop P c c') : P c.node.tree := h.everywhere.here

theorem via (h : Pruned drop P c c') {t : Tree} (mem : t ∈ c.node.tree.children) (i j : Nat) :
    Pruned drop P (.via c (c.node.childAt i t)) (.via c' (c'.node.childAt j (t.prune drop))) where
  tree := rfl
  source := h.source
  parse := h.parse
  options := by
    have same : (c'.node.childAt j (t.prune drop)).kind = (c.node.childAt i t).kind :=
      t.kind_prune drop
    rw [options_via, options_via, h.options, same]
  everywhere := h.everywhere.child mem

theorem hasToken (h : Pruned drop P c c') {token : String}
    (kept : ∀ t : Tree, t.kind = token → drop t = false) :
    c'.hasToken token = c.hasToken token := by
  rw [Cursor.hasToken, Cursor.hasToken, Node.hasToken, Node.hasToken, h.tree, Tree.children_prune]
  induction c.node.tree.children with
  | nil => rw [Tree.pruneAll]
  | cons t ts ih =>
    rw [Tree.pruneAll, List.any_cons, ← ih]
    split
    · next dropped =>
      have other : (t.kind == token) = false := by
        rw [beq_eq_false_iff_ne]
        intro same
        rw [kept t same] at dropped
        cases dropped
      rw [other, Bool.and_false, Bool.false_or]
    · simp

/-- The named children that are kept are those of the pruned tree. -/
theorem namedChildren (h : Pruned drop P c c') :
    List.Forall₂ (Pruned drop P) (c.namedChildren.filter fun d => !drop d.node.tree)
      c'.namedChildren := by
  -- the positions of the later children are shifted on either side
  have related (ts : List Tree) (sub : ∀ t ∈ ts, t ∈ c.node.tree.children) (f g : Nat → Nat) :
      List.Forall₂ (Pruned drop P)
        ((((ts.mapIdx fun i t => c.node.childAt (f i) t).filter fun n => n.tree.named).map
          c.via).filter fun d => !drop d.node.tree)
        ((((Tree.pruneAll drop ts).mapIdx fun i t => c'.node.childAt (g i) t).filter
          fun n => n.tree.named).map c'.via) := by
    induction ts generalizing f g with
    | nil => rw [Tree.pruneAll]; exact .nil
    | cons t ts ih =>
      obtain ⟨mem, sub⟩ := List.forall_mem_cons.1 sub
      have tree (c : Cursor) (i : Nat) (t : Tree) : (c.node.childAt i t).tree = t := rfl
      have node (c : Cursor) (n : Node) : (c.via n).node = n := rfl
      rw [Tree.pruneAll, List.mapIdx_cons, List.filter_cons, tree]
      by_cases dropped : drop t = true
      · have later := ih sub (fun i => f (i + 1)) g
        rw [if_pos dropped]
        cases t.named with
        | false => exact later
        | true =>
          rw [if_pos rfl, List.map_cons, List.filter_cons, node, tree, dropped]
          exact later
      · have later := ih sub (fun i => f (i + 1)) (fun i => g (i + 1))
        rw [if_neg dropped, List.mapIdx_cons, List.filter_cons, tree, Tree.named_prune]
        cases t.named with
        | false => exact later
        | true =>
          rw [if_pos rfl, if_pos rfl, List.map_cons, List.map_cons, List.filter_cons, node, tree,
            if_pos (by simpa using dropped)]
          exact .cons (h.via mem ..) later
  have whole := related c.node.tree.children (fun _ mem => mem) id id
  rw [Cursor.namedChildren, Cursor.namedChildren, Node.namedChildren, Node.namedChildren,
    Node.children, Node.children, h.tree, Tree.children_prune]
  exact whole

/-- The named children of one kind that are kept. -/
theorem filter_namedChildrenOf (h : Pruned drop P c c') (kind : String) :
    List.Forall₂ (Pruned drop P) ((c.namedChildrenOf kind).filter fun d => !drop d.node.tree)
      (c'.namedChildrenOf kind) := by
  have related := List.rel_filter (p := fun d => decide (d.kind = kind))
    (q := fun d => decide (d.kind = kind)) (fun a b h => by simp [h.kind]) h.namedChildren
  rw [List.filter_comm] at related
  exact related

/-- The named children of a kind that is kept. -/
theorem namedChildrenOf (h : Pruned drop P c c') {kind : String}
    (kept : ∀ t : Tree, t.kind = kind → drop t = false) :
    List.Forall₂ (Pruned drop P) (c.namedChildrenOf kind) (c'.namedChildrenOf kind) := by
  have all : (c.namedChildrenOf kind).filter (fun d => !drop d.node.tree) =
      c.namedChildrenOf kind := by
    rw [List.filter_eq_self]
    intro d mem
    have same : d.kind = kind := by simpa using (List.mem_filter.1 mem).2
    rw [kept _ same]
    rfl
  have related := h.filter_namedChildrenOf kind
  rwa [all] at related

/-- What a field names that is kept. -/
theorem field? (h : Pruned drop P c c') {name : String}
    (kept : c.node.tree.FieldKept drop name) :
    Option.Rel (Pruned drop P) (c.field? name) (c'.field? name) := by
  rw [Cursor.field?, Cursor.field?, Node.field?, Node.field?, h.tree, Tree.children_prune,
    Tree.fields_prune]
  cases at? : c.node.tree.fields.lookup name with
  | none =>
    rw [Tree.lookup_keptFields_none at?]
    exact .none
  | some i =>
    cases child : c.node.tree.children[i]? with
    | none =>
      rw [Tree.lookup_keptFields at? (by rw [child]; rfl)]
      dsimp only
      rw [child, Tree.getElem?_pruneAll_none child]
      exact .none
    | some t =>
      have named : c.node.tree.field? name = some t := by
        rw [Tree.field?, at?]
        exact child
      have keep : drop t = false := kept t named
      rw [Tree.lookup_keptFields at? (by rw [child]; exact keep)]
      dsimp only
      rw [child, Tree.getElem?_pruneAll child keep]
      exact .some (h.via (List.mem_of_getElem? child) ..)

end Pruned

theorem everywhere_of_mem_namedChildren (h : c.node.tree.Everywhere P) {d : Cursor}
    (mem : d ∈ c.namedChildren) : d.node.tree.Everywhere P := by
  obtain ⟨n, inner, rfl⟩ := List.mem_map.1 mem
  obtain ⟨i, lt, rfl⟩ := List.mem_mapIdx.1 (List.mem_filter.1 inner).1
  exact h.child (List.getElem_mem lt)

end Cursor

end ExportTrail
