import ExportTrail.Proofs.Search.Erased
import ExportTrail.Proofs.Search.Visit

/-!
# Types are inert

What a module exports and imports as a type has no influence on searches for values
(`type_exports_inert`). A search in the erased workspace enters and loads the same modules in the
same order and ends at the same place, or with the same failure (`SameSearch`), and an import
statement binds the same names to the same exports without the specifiers that are for types only.
-/

namespace ExportTrail

/-! ## Imports -/

namespace Import

/-- The kind of an import specifier. -/
def specifierKind : String := "import_specifier"

/-- Whether a node is an import specifier for types only. -/
def isErased (t : Tree) : Bool :=
  if t.kind = specifierKind then Export.isTypeOnly (Export.bare t) else false

/-- The fields that are read. -/
def readFields : List String := ["source", "name", "alias"]

/-- What the grammars say of import statements: no field that is read names an import specifier. -/
def Grammatical (t : Tree) : Prop :=
  ∀ name ∈ readFields, ∀ child ∈ t.field? name, child.kind ≠ specifierKind

instance (t : Tree) : Decidable (Grammatical t) :=
  inferInstanceAs
    (Decidable (∀ name ∈ readFields, ∀ child ∈ t.field? name, child.kind ≠ specifierKind))

theorem isErased_of_kind {t : Tree} {kind : String} (h : t.kind = kind)
    (other : kind ≠ specifierKind) : isErased t = false := by
  rw [isErased, if_neg (h ▸ other)]

/-- Whether a cursor stands in an import statement without specifiers for types, where another one
stands in the whole statement. -/
abbrev Erased (c c' : Cursor) : Prop := c.Pruned isErased Grammatical c'

section

variable {α β γ : Type}

/-- The first answer is the same if only what gives none is left out. -/
theorem findSome?_filter {p : α → Bool} {f : α → Option γ} {l : List α}
    (h : ∀ a ∈ l, p a = false → f a = none) : (l.filter p).findSome? f = l.findSome? f := by
  induction l with
  | nil => rfl
  | cons a l ih =>
    obtain ⟨here, rest⟩ := List.forall_mem_cons.1 h
    cases kept : p a with
    | true => simp [kept, List.findSome?_cons, ih rest]
    | false => simp [kept, ih rest, here kept]

/-- The first answer is the same in lists whose members answer alike. -/
theorem findSome?_forall₂ {R : α → β → Prop} {f : α → Option γ} {g : β → Option γ}
    (same : ∀ a b, R a b → g b = f a) {l : List α} {l' : List β} (h : List.Forall₂ R l l') :
    l'.findSome? g = l.findSome? f := by
  induction h with
  | nil => rfl
  | cons first _ ih => rw [List.findSome?_cons, List.findSome?_cons, same _ _ first, ih]

end

variable {c c' : Cursor} {localName : String}

namespace Erased

theorem isTypeOnly (h : Erased c c') : Export.isTypeOnly c' = Export.isTypeOnly c := by
  have token (token : String) (other : token ≠ specifierKind) :
      c'.hasToken token = c.hasToken token :=
    h.hasToken fun _ same => isErased_of_kind same other
  rw [Export.isTypeOnly, Export.isTypeOnly, token "type" (by decide), token "typeof" (by decide)]

theorem fieldKept (h : Erased c c') {name : String} (read : name ∈ readFields) :
    c.node.tree.FieldKept isErased name :=
  fun child named => isErased_of_kind rfl (h.here name read child named)

theorem field? (h : Erased c c') (name : String) (read : name ∈ readFields) :
    Option.Rel Erased (c.field? name) (c'.field? name) :=
  Cursor.Pruned.field? h (h.fieldKept read)

end Erased

theorem specifierName?_erased (h : Erased c c') :
    specifierName? localName c' = specifierName? localName c := by
  have imported := h.field? "name" (by decide)
  have renamed := h.field? "alias" (by decide)
  rw [specifierName?, specifierName?, h.isTypeOnly]
  split
  · rfl
  · generalize c.field? "name" = found at imported ⊢
    generalize c'.field? "name" = found' at imported ⊢
    cases imported with
    | none => rfl
    | some imported =>
      dsimp only
      rw [imported.bindingName, (rel_getD renamed imported).text]

/-- A specifier that is erased binds no name. -/
theorem specifierName?_of_isErased (specifier : c.kind = specifierKind)
    (erased : isErased c.node.tree = true) : specifierName? localName c = none := by
  have specifier : c.node.tree.kind = specifierKind := specifier
  rw [isErased, if_pos specifier] at erased
  have typeOnly : Export.isTypeOnly c = true := erased
  rw [specifierName?, if_pos typeOnly]

theorem partName?_erased (h : Erased c c') : partName? localName c' = partName? localName c := by
  have names : (c'.namedChildrenOf specifierKind).findSome? (specifierName? localName) =
      (c.namedChildrenOf specifierKind).findSome? (specifierName? localName) := by
    rw [findSome?_forall₂ (fun _ _ h => specifierName?_erased h)
      (h.filter_namedChildrenOf specifierKind)]
    refine findSome?_filter fun d mem erased => ?_
    have ofKind : d.kind = specifierKind := of_decide_eq_true (List.mem_filter.1 mem).2
    exact specifierName?_of_isErased ofKind (by simpa using erased)
  rw [specifierKind] at names
  rw [partName?, partName?, h.kind, h.text, names]

/-- An import statement binds the same without the specifiers for types. -/
theorem exportedName?_erased (h : Erased c c') (localName : String) :
    exportedName? c' localName = exportedName? c localName := by
  have clauses : List.Forall₂ Erased (c.namedChildrenOf "import_clause")
      (c'.namedChildrenOf "import_clause") :=
    h.namedChildrenOf fun _ same => isErased_of_kind same (by decide)
  rw [exportedName?, exportedName?, h.isTypeOnly]
  split
  · rfl
  · refine findSome?_forall₂ (fun clause clause' parts => ?_) clauses
    rw [findSome?_forall₂ (fun _ _ h => partName?_erased h) parts.namedChildren]
    refine findSome?_filter fun part _ erased => ?_
    -- a specifier is no part of a clause that binds a name
    have ofKind : part.kind = specifierKind := by
      by_contra other
      rw [isErased_of_kind rfl other] at erased
      cases erased
    rw [partName?, ofKind, if_neg (by decide), if_neg (by decide)]

end Import

/-! ## Searches for values -/

/-- Whether two nodes stand at the same place of the same parse of a file. -/
structure Cursor.SamePlace (c c' : Cursor) : Prop where
  kind : c'.kind = c.kind
  start : c'.node.tree.start = c.node.tree.start
  stop : c'.node.tree.stop = c.node.tree.stop
  source : c'.node.source = c.node.source
  parse : c'.node.parse = c.node.parse
  options : c'.options = c.options

theorem Cursor.Pruned.samePlace {drop : Tree → Bool} {P : Tree → Prop} {c c' : Cursor}
    (h : c.Pruned drop P c') : c.SamePlace c' where
  kind := h.kind
  start := by rw [h.tree, Tree.start_prune]
  stop := by rw [h.tree, Tree.stop_prune]
  source := h.source
  parse := h.parse
  options := h.options

namespace Search

/-- Whether two searches do the same: with the node at the same place, with nothing, or with the
same failure, after they have entered and loaded the same modules in the same order. -/
structure SameSearch (x x' : Outcome × Progress) : Prop where
  outcome : SameOutcome (Option.Rel Cursor.SamePlace) x.1 x'.1
  visited : x'.2.visited = x.2.visited
  entered : marks x'.2.acts = marks x.2.acts
  loaded : loads x'.2.acts = loads x.2.acts
  events : x'.2.events = x.2.events

theorem EndErased.sameSearch {x x' : Outcome × Progress} (h : EndErased Export.Erased x x') :
    SameSearch x x' := by
  cases h with
  | failed e alike =>
    exact ⟨.error e, alike.visited, alike.marks_eq, alike.loads_eq, alike.events⟩
  | found results alike =>
    refine ⟨.ok ?_, alike.visited, alike.marks_eq, alike.loads_eq, alike.events⟩
    cases results with
    | none => exact .none
    | some found => exact .some found.samePlace

variable {ws : Workspace}

/-- **Types are inert.** Suppose that the grammars are what they say of exports. When what exports
no value is erased from all modules, then every search, from the same edge or in a module that is
parsed, goes the same way and ends at the same place; and so does every search for what an import
statement binds, without its specifiers for types: it binds the same names. -/
theorem type_exports_inert (grammatical : ws.grammars.Grammatical) :
    (∀ (r : Resolver) (edge edge' : Cursor) (name : String) (before : List Path) (serial : Nat),
      SameEdge edge edge' →
        SameSearch (r.resolve ws edge name (.start before serial))
          (r.resolve ws.eraseTypes edge' name (.start before serial))) ∧
    (∀ (r : Resolver) (program program' : Cursor) (name : String) (before : List Path)
      (serial : Nat),
      ModuleErased program program' →
        SameSearch (r.findExported ws program name (.start before serial))
          (r.findExported ws.eraseTypes program' name (.start before serial))) ∧
    ∀ statement statement', Import.Erased statement statement' →
      (∀ localName,
        Import.exportedName? statement' localName = Import.exportedName? statement localName) ∧
      ∀ (r : Resolver) (localName : String) (before : List Path) (serial : Nat),
        SameSearch (r.resolveBinding ws statement localName (.start before serial))
          (r.resolveBinding ws.eraseTypes statement' localName (.start before serial)) := by
  have searches (r : Resolver) (edge edge' : Cursor) (name : String) (before : List Path)
      (serial : Nat) (edges : SameEdge edge edge') :
      SameSearch (r.resolve ws edge name (.start before serial))
        (r.resolve ws.eraseTypes edge' name (.start before serial)) :=
    (resolve_erased grammatical edges name (.start before serial)).sameSearch
  refine ⟨searches, ?_, ?_⟩
  · intro r program program' name before serial modules
    exact (findExported_erased grammatical modules name (.start before serial)).sameSearch
  · intro statement statement' h
    have bound := Import.exportedName?_erased h
    refine ⟨bound, fun r localName before serial => ?_⟩
    rw [Resolver.resolveBinding, Resolver.resolveBinding, bound localName]
    cases Import.exportedName? statement localName with
    | none => exact ⟨.ok .none, rfl, rfl, rfl, rfl⟩
    | some name =>
      have same : SameEdge statement statement' := sameEdge_of_pruned h (h.fieldKept (by decide))
      exact searches r statement statement' name before serial same

namespace TypedModule

open TwoModules (leaf branch options)

/-- The statement `export type{x};`. -/
def typeTree : Tree :=
  branch "export_statement" 0 15
    [leaf "export" false 0 6, leaf "type" false 7 11,
      branch "export_clause" 11 14
        [leaf "\x7b" false 11 12,
          branch "export_specifier" 12 13 [leaf "identifier" true 12 13] [("name", 0)],
          leaf "\x7d" false 13 14] [],
      leaf ";" false 14 15]
    []

/-- The statement `export{type y,x}` behind it. -/
def clauseTree : Tree :=
  branch "export_statement" 15 31
    [leaf "export" false 15 21,
      branch "export_clause" 21 31
        [leaf "\x7b" false 21 22,
          branch "export_specifier" 22 28
            [leaf "type" false 22 26, leaf "identifier" true 27 28] [("name", 1)],
          leaf "," false 28 29,
          branch "export_specifier" 29 30 [leaf "identifier" true 29 30] [("name", 0)],
          leaf "\x7d" false 30 31] []]
    []

/-- The statement `import{type y,x}from'./a';`. -/
def importTree : Tree :=
  branch "import_statement" 0 26
    [leaf "import" false 0 6,
      branch "import_clause" 6 16
        [branch "named_imports" 6 16
          [leaf "\x7b" false 6 7,
            branch "import_specifier" 7 13
              [leaf "type" false 7 11, leaf "identifier" true 12 13] [("name", 1)],
            leaf "," false 13 14,
            branch "import_specifier" 14 15 [leaf "identifier" true 14 15] [("name", 0)],
            leaf "\x7d" false 15 16] []] [],
      leaf "from" false 16 20,
      branch "string" 20 25
        [leaf "'" false 20 21, leaf "string_fragment" true 21 24, leaf "'" false 24 25] [],
      leaf ";" false 25 26]
    [("source", 3)]

def tree : Tree := branch "program" 0 31 [typeTree, clauseTree] []

def importerTree : Tree := branch "program" 0 26 [importTree] []

def text : List UInt8 := Text.Utf8.encode "export type\x7bx\x7d;export\x7btype y,x\x7d".toList

def importerText : List UInt8 := Text.Utf8.encode "import\x7btype y,x\x7dfrom'./a';".toList

/-- The file of the module. -/
def module : Path := ⟨.root, ["a.js"]⟩

def workspace : Workspace where
  world := ⟨[(["a.js"], .file text)]⟩
  cwd := []
  grammars _ _ := ⟨tree, false⟩

def resolver : Resolver := ⟨Locator.default, 1⟩

/-- A module that imports from this one, given by its tree. -/
def importer (t : Tree) : Cursor :=
  .top (Node.root 0 importerText t) (some (options ⟨.root, ["b.js"]⟩))

/-- Its import statement. -/
def importing : Cursor :=
  .via (importer importerTree) ((importer importerTree).node.childAt 0 importTree)

/-- The import statement without the specifier for a type. -/
def importing' : Cursor :=
  let erased := importer (importerTree.prune Import.isErased)
  .via erased (erased.node.childAt 0 (importTree.prune Import.isErased))

theorem importing_erased : Import.Erased importing importing' := by
  have everywhere : ∀ u ∈ importerTree.preorder, Import.Grammatical u := by decide
  have program : Import.Erased (importer importerTree)
      (importer (importerTree.prune Import.isErased)) :=
    .top everywhere 0 importerText (some (options ⟨.root, ["b.js"]⟩))
  exact program.via List.mem_cons_self 0 0

theorem everywhere : tree.Everywhere Export.Grammatical := by
  show ∀ u ∈ tree.preorder, Export.Grammatical u
  decide

theorem grammatical : workspace.grammars.Grammatical := by
  intro dialect source _
  refine ⟨?_, everywhere⟩
  show ¬ Export.IsExport "program"
  decide

/-- The module itself, given by its tree. -/
def program (t : Tree) : Cursor := .top (Node.root 0 text t) (some (options module))

theorem program_erased : ModuleErased (program tree) (program (tree.prune Export.isErased)) := by
  refine ⟨.top everywhere 0 text (some (options module)), ?_⟩
  show ¬ Export.IsExport "program"
  decide

theorem statements_program :
    Export.statements (program tree) =
      [.via (program tree) ((program tree).node.childAt 0 typeTree),
        .via (program tree) ((program tree).node.childAt 1 clauseTree)] := by
  apply Export.statements_eq_namedChildren
  · cbv
  · cbv
  · intro s mem
    rcases List.mem_cons.1 mem with rfl | mem
    · rfl
    · obtain rfl := List.mem_singleton.1 mem
      rfl

theorem agenda_program :
    ∃ found, Export.agenda (program tree) "x" = [.settle (some found)] := by
  rw [Export.agenda, statements_program]
  exact ⟨_, by cbv⟩

theorem leads_importing : Leads resolver workspace importing module :=
  ⟨"./a", by cbv, by cbv⟩

theorem load_importing :
    (workspace.load 0 module importing.options).outcome = .ok (program tree) := by
  cbv

/-- The search for the name that is imported finds it. -/
theorem binding_importing :
    ∃ found,
      (resolver.resolveBinding workspace importing "x" (.start [] 0)).1 = .ok (some found) := by
  obtain ⟨found, agenda⟩ := agenda_program
  obtain ⟨p, -, -, eq⟩ := Recursive.visit_of_leads (r := resolver) (p := .start [] 0)
    (Recursive.asker resolver workspace 1) "x" leads_importing List.not_mem_nil load_importing
  have bound : Import.exportedName? importing "x" = some "x" := by cbv
  refine ⟨found, ?_⟩
  rw [Resolver.resolveBinding, bound]
  dsimp only
  rw [resolve_eq, Recursive.resolve, Recursive.request_eq, eq, Recursive.module_eq, agenda,
    Recursive.forAll_singleton, Recursive.perform]

end TypedModule

open TypedModule in
/-- A module that exports `x` as a type and as a value, and `y` as a type, and an import of both. -/
theorem type_exports_inert_typed_module :
    SameSearch (resolver.resolve workspace importing "x" (.start [] 0))
        (resolver.resolve workspace.eraseTypes importing "x" (.start [] 0)) ∧
      SameSearch (resolver.findExported workspace (program tree) "y" (.start [module] 0))
        (resolver.findExported workspace.eraseTypes (program (tree.prune Export.isErased)) "y"
          (.start [module] 0)) ∧
      Import.exportedName? importing' "y" = Import.exportedName? importing "y" ∧
      ∃ found found',
        (resolver.resolveBinding workspace importing "x" (.start [] 0)).1 = .ok (some found) ∧
        (resolver.resolveBinding workspace.eraseTypes importing' "x" (.start [] 0)).1 =
          .ok (some found') ∧
        found.SamePlace found' := by
  obtain ⟨edges, modules, imports⟩ := type_exports_inert grammatical
  obtain ⟨bound, bindings⟩ := imports importing importing' importing_erased
  refine ⟨edges resolver importing importing "x" [] 0 ⟨rfl, rfl⟩,
    modules resolver _ _ "y" [module] 0 program_erased, bound "y", ?_⟩
  obtain ⟨found, ends⟩ := binding_importing
  have related := (bindings resolver "x" [] 0).outcome
  rw [ends] at related
  generalize ends' : (resolver.resolveBinding workspace.eraseTypes importing' "x" (.start [] 0)).1 =
    outcome at related
  cases related with
  | ok results =>
    cases results with
    | some place => exact ⟨found, _, ends, rfl, place⟩

end Search

end ExportTrail
