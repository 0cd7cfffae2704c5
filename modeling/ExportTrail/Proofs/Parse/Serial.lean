import ExportTrail.Export
import ExportTrail.Workspace

/-!
# Serial numbers of parses

The serial number of a parse tells its nodes from those of other parses, and that is all: giving a
tree another number (`Cursor.renumber`) changes neither the texts and options of its nodes nor what
its export statements contribute (`agenda_renumber`), and the same file read twice gives the same
tree but for the number (`load_map`).
-/

namespace ExportTrail

/-- The same place in a parse of another number. -/
def Node.renumber (k : Nat) (n : Node) : Node := { n with parse := k }

@[simp] theorem Node.tree_renumber (k : Nat) (n : Node) : (n.renumber k).tree = n.tree := rfl

@[simp] theorem Node.childAt_renumber (k : Nat) (n : Node) (i : Nat) (t : Tree) :
    (n.renumber k).childAt i t = (n.childAt i t).renumber k := rfl

@[simp] theorem Node.namedChildren_renumber (k : Nat) (n : Node) :
    (n.renumber k).namedChildren = n.namedChildren.map (Node.renumber k) := by
  have children : (n.renumber k).children = n.children.map (Node.renumber k) := by
    apply List.ext_getElem <;> simp [Node.children]
  rw [Node.namedChildren, children, List.filter_map]
  rfl

@[simp] theorem Node.field?_renumber (k : Nat) (n : Node) (name : String) :
    (n.renumber k).field? name = (n.field? name).map (Node.renumber k) := by
  rw [Node.field?, Node.field?, Node.tree_renumber]
  cases n.tree.fields.lookup name with
  | none => rfl
  | some i =>
    dsimp only
    rw [Option.map_map]
    rfl

namespace Cursor

/-- The same cursor on a parse of another number. -/
def renumber (k : Nat) : Cursor → Cursor
  | .top n o => .top (n.renumber k) o
  | .via p n => .via (p.renumber k) (n.renumber k)

variable (k : Nat) (c : Cursor)

@[simp] theorem node_renumber : (c.renumber k).node = c.node.renumber k := by
  cases c <;> rfl

@[simp] theorem kind_renumber : (c.renumber k).kind = c.kind := by
  rw [kind, node_renumber]; rfl

@[simp] theorem text_renumber : (c.renumber k).text = c.text := by
  rw [text, node_renumber]; rfl

@[simp] theorem hasToken_renumber (token : String) :
    (c.renumber k).hasToken token = c.hasToken token := by
  rw [hasToken, node_renumber]; rfl

@[simp] theorem bindingName_renumber : (c.renumber k).bindingName = c.bindingName := by
  rw [bindingName, bindingName, kind_renumber, text_renumber]

@[simp] theorem stringValue?_renumber : (c.renumber k).stringValue? = c.stringValue? := by
  rw [stringValue?, stringValue?, kind_renumber, text_renumber]

@[simp] theorem field?_renumber (name : String) :
    (c.renumber k).field? name = (c.field? name).map (renumber k) := by
  rw [field?, field?, node_renumber, Node.field?_renumber, Option.map_map, Option.map_map]
  rfl

@[simp] theorem namedChildren_renumber :
    (c.renumber k).namedChildren = c.namedChildren.map (renumber k) := by
  rw [namedChildren, namedChildren, node_renumber, Node.namedChildren_renumber, List.map_map,
    List.map_map]
  rfl

@[simp] theorem namedChildrenOf_renumber (kind : String) :
    (c.renumber k).namedChildrenOf kind = (c.namedChildrenOf kind).map (renumber k) := by
  rw [namedChildrenOf, namedChildrenOf, namedChildren_renumber, List.filter_map]
  simp [Function.comp_def]

@[simp] theorem options_renumber : (c.renumber k).options = c.options := by
  have ancestors : (c.renumber k).ancestors = c.ancestors.map (renumber k) := by
    induction c with
    | top n o => rfl
    | via p n ih => rw [renumber, Cursor.ancestors, Cursor.ancestors, ih]; rfl
  have attached (d : Cursor) : (d.renumber k).attached = d.attached := by cases d <;> rfl
  rw [options, options, ancestors, List.find?_map]
  simp only [Function.comp_def, kind_renumber]
  cases c.ancestors.find? fun d => d.kind = programKind with
  | none => rfl
  | some program => simp [attached]

end Cursor

namespace Export

variable (k : Nat)

theorem traverseStack_renumber (stack found : List Cursor) :
    collector.traverseStack (stack.map (Cursor.renumber k)) (found.map (Cursor.renumber k)) =
      (collector.traverseStack stack found).map (Cursor.renumber k) := by
  have visit (c : Cursor) (found : List Cursor) :
      collector.visit (c.renumber k) (found.map (Cursor.renumber k)) =
        ((collector.visit c found).1, (collector.visit c found).2.map (Cursor.renumber k)) := by
    rw [Visitor.visit, Visitor.visit, Cursor.kind_renumber]
    by_cases h : c.kind = statementKind <;> simp [collector, h]
  fun_induction collector.traverseStack stack found with
  | case1 found => simp [Visitor.traverseStack]
  | case2 c stack found down ih =>
    rw [List.map_cons, Visitor.traverseStack, visit, if_pos down, Cursor.namedChildren_renumber,
      ← List.map_append]
    exact ih
  | case3 c stack found down ih =>
    rw [List.map_cons, Visitor.traverseStack, visit, if_neg down]
    exact ih

theorem statements_renumber (program : Cursor) :
    statements (program.renumber k) = (statements program).map (Cursor.renumber k) :=
  traverseStack_renumber k [program] []

variable (s : Cursor) (name : String)

@[simp] theorem form?_renumber : form? (s.renumber k) = form? s := by
  simp [form?]

@[simp] theorem isTypeOnly_renumber : isTypeOnly (s.renumber k) = isTypeOnly s := by
  simp [isTypeOnly]

theorem initialiser?_renumber :
    initialiser? name (s.renumber k) = (initialiser? name s).map (Cursor.renumber k) := by
  rw [initialiser?, initialiser?, Cursor.field?_renumber]
  cases s.field? "name" with
  | none => rfl
  | some bound =>
    simp only [Option.map_some, Cursor.kind_renumber, Cursor.text_renumber]
    split
    · exact Cursor.field?_renumber k s "value"
    · rfl

theorem declared?_renumber :
    declared? (s.renumber k) name = (declared? s name).map (Cursor.renumber k) := by
  rw [declared?, declared?, Cursor.field?_renumber]
  cases s.field? "name" with
  | some own =>
    simp only [Option.map_some, Cursor.text_renumber]
    split <;> rfl
  | none =>
    simp only [Option.map_none, Cursor.namedChildrenOf_renumber, List.filterMap_map,
      Function.comp_def, initialiser?_renumber]
    rw [← List.map_filterMap, List.getLast?_map]

@[simp] theorem matchDeclaration_renumber :
    matchDeclaration (s.renumber k) name =
      (matchDeclaration s name).map (Cursor.renumber k) := by
  rw [matchDeclaration, matchDeclaration, Cursor.field?_renumber]
  cases s.field? "declaration" with
  | none => rfl
  | some declaration => exact declared?_renumber k declaration name

@[simp] theorem defaultValue_renumber :
    defaultValue (s.renumber k) = (defaultValue s).map (Cursor.renumber k) := by
  rw [defaultValue, defaultValue, Cursor.field?_renumber, Cursor.field?_renumber]
  cases s.field? "declaration" <;> rfl

@[simp] theorem namespaceIsNamed_renumber :
    namespaceIsNamed name (s.renumber k) = namespaceIsNamed name s := by
  rw [namespaceIsNamed, namespaceIsNamed, Cursor.namedChildren_renumber, List.getLast?_map]
  cases s.namedChildren.getLast? with
  | none => rfl
  | some own => simp

theorem specifier?_renumber :
    specifier? (s.renumber k) =
      (specifier? s).map fun (exported, inner) => (exported, inner.renumber k) := by
  rw [specifier?, specifier?, isTypeOnly_renumber, Cursor.field?_renumber, Cursor.field?_renumber]
  split
  · rfl
  · cases s.field? "name" with
    | none => rfl
    | some inner => cases s.field? "alias" <;> simp

@[simp] theorem specifiers_renumber :
    specifiers (s.renumber k) =
      (specifiers s).map fun (exported, inner) => (exported, inner.renumber k) := by
  simp only [specifiers, Cursor.namedChildrenOf_renumber, List.flatMap_map, List.map_flatMap,
    List.filterMap_map, Function.comp_def, specifier?_renumber, List.map_filterMap]

/-- The same item of the agenda of a parse of another number. -/
def Item.renumber : Item → Item
  | .settle result => .settle (result.map (Cursor.renumber k))
  | .ask edge name clears => .ask (edge.renumber k) name clears

theorem items_renumber : items name (s.renumber k) = (items name s).map (Item.renumber k) := by
  unfold items
  rw [form?_renumber]
  cases form? s with
  | none => rfl
  | some form =>
    cases form with
    | declaration => cases h : matchDeclaration s name <;> simp [h, Item.renumber]
    | specifiers =>
      simp only [specifierItems, specifiers_renumber, Cursor.field?_renumber, Option.isSome_map,
        List.filterMap_map, List.map_filterMap]
      congr 1
      funext ⟨exported, inner⟩
      by_cases named : exported = name
      · by_cases sourced : (s.field? "source").isSome <;> simp [named, sourced, Item.renumber]
      · simp [named]
    | default => by_cases h : name = "default" <;> simp [h, Item.renumber]
    | wildcard => rfl
    | namespaced => simp [List.filter_map, Function.comp_def, Item.renumber]

/-- What a module contributes to a search does not depend on the number of its parse. -/
theorem agenda_renumber (program : Cursor) :
    agenda (program.renumber k) name = (agenda program name).map (Item.renumber k) := by
  simp only [agenda, statements_renumber, List.flatMap_map, List.map_flatMap, items_renumber]

end Export

namespace Workspace

variable {ws : Workspace}

theorem parseWith_map (grammars : Grammars) (choice : GrammarChoice) (o : Options) (serial k : Nat)
    (source : List UInt8) :
    (parseWith grammars choice o k source).outcome =
      (parseWith grammars choice o serial source).outcome.map (Cursor.renumber k) := by
  unfold parseWith
  dsimp only
  split
  · rfl
  · split
    · rfl
    · split <;> rfl

/-- A file that is read again gives the same tree but for the number, or the same failure. -/
theorem load_map (ws : Workspace) (serial k : Nat) (module : Path) (o : Options) :
    (ws.load k module o).outcome = (ws.load serial module o).outcome.map (Cursor.renumber k) := by
  unfold load loadAs
  split
  · rfl
  · dsimp only
    split
    · rfl
    · exact parseWith_map ..

theorem load_renumber {o : Options} {module : Path} {serial k : Nat} {program : Cursor}
    (h : (ws.load serial module o).outcome = .ok program) :
    (ws.load k module o).outcome = .ok (program.renumber k) := by
  rw [load_map ws serial, h]
  rfl

end Workspace

end ExportTrail
