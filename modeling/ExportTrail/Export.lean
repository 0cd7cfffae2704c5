import ExportTrail.Failure
import ExportTrail.Traversal

/-!
# Export statements

The export statements of a module and what each of them contributes to the search for a name. A
statement has one of five forms, or binds no value at all (`Export.form?`).
-/

namespace ExportTrail.Export

/-- The kind of an export statement. -/
def statementKind : String := "export_statement"

/-- The visitor that gathers export statements without entering them. -/
def collector : Visitor (List Cursor) where
  hook kind := if kind = statementKind then some fun c found => (false, found ++ [c]) else none

/-- The export statements of a module, in order. -/
def statements (program : Cursor) : List Cursor := collector.traverse program []

/-- The forms of an export statement. -/
inductive Form
  /-- A declaration that is exported as it is made. -/
  | declaration
  /-- A clause of specifiers, with or without a source. -/
  | specifiers
  /-- A default export. -/
  | default
  /-- Everything that another module exports. -/
  | wildcard
  /-- Another module as one name. -/
  | namespaced
  deriving DecidableEq, Repr

/-- The name of a form. -/
def Form.name : Form → String
  | .declaration => "declaration"
  | .specifiers => "specifiers"
  | .default => "default"
  | .wildcard => "wildcard"
  | .namespaced => "namespace"

/-- The form of a statement. Statements that export types only, or in a way that binds no name,
have none. -/
def form? (statement : Cursor) : Option Form :=
  if statement.hasToken "default" then some .default
  else if (statement.field? "declaration").isSome then some .declaration
  else if statement.hasToken "type" then none
  else if statement.hasToken "*" then some .wildcard
  else if statement.namedChildrenOf "namespace_export" ≠ [] then some .namespaced
  else if statement.namedChildrenOf "export_clause" ≠ [] then some .specifiers
  else none

/-- Whether a specifier of an import or export is for types only. -/
def isTypeOnly (specifier : Cursor) : Bool :=
  specifier.hasToken "type" || specifier.hasToken "typeof"

/-! ## Local matches -/

/-- The initialiser that a declarator gives to a name. -/
def initialiser? (name : String) (declarator : Cursor) : Option Cursor :=
  match declarator.field? "name" with
  | some bound =>
    if bound.kind = "identifier" ∧ bound.text = name then declarator.field? "value" else none
  | none => none

/-- What a declaration gives to a name: itself if the name is its own, and the last initialiser of
the name if it has no name of its own. -/
def declared? (declaration : Cursor) (name : String) : Option Cursor :=
  match declaration.field? "name" with
  | some own => if own.text = name then some declaration else none
  | none =>
    ((declaration.namedChildrenOf "variable_declarator").filterMap (initialiser? name)).getLast?

/-- What the declaration of a statement gives to a name. -/
def matchDeclaration (statement : Cursor) (name : String) : Option Cursor :=
  (statement.field? "declaration").bind (declared? · name)

/-- The same for a statement that is expected to have a declaration. -/
def matchOwnDeclaration (statement : Cursor) (name : String) : Except Failure (Option Cursor) :=
  match statement.field? "declaration" with
  | some declaration => .ok (declared? declaration name)
  | none => .error .noDeclaration

/-- What a statement exports as the default. -/
def defaultValue (statement : Cursor) : Option Cursor :=
  (statement.field? "declaration").orElse fun _ => statement.field? "value"

/-- Whether a namespace export is for a name. -/
def namespaceIsNamed (name : String) (clause : Cursor) : Bool :=
  match clause.namedChildren.getLast? with
  | some own => own.bindingName = name
  | none => false

/-! ## Specifiers -/

/-- The exported name and the local name of a specifier that exports a value. -/
def specifier? (specifier : Cursor) : Option (String × Cursor) :=
  if isTypeOnly specifier then none
  else
    (specifier.field? "name").map fun inner =>
      (((specifier.field? "alias").getD inner).bindingName, inner)

/-- The exported and the local name of each value specifier of a statement, in order. -/
def specifiers (statement : Cursor) : List (String × Cursor) :=
  (statement.namedChildrenOf "export_clause").flatMap fun clause =>
    (clause.namedChildrenOf "export_specifier").filterMap specifier?

/-! ## The agenda of a search -/

/-- One thing to do in the search of a module for a name. -/
inductive Item
  /-- The result so far is replaced. -/
  | settle (result : Option Cursor)
  /-- Another module has to be asked. Its answer replaces the result so far; an answer of nothing
  does so only if `clears` holds. -/
  | ask (edge : Cursor) (name : String) (clears : Bool)

/-- What the specifiers of a statement contribute. -/
def specifierItems (statement : Cursor) (name : String) : List Item :=
  (specifiers statement).filterMap fun (exported, inner) =>
    if exported = name then
      if (statement.field? "source").isSome then some (.ask statement inner.bindingName true)
      else some (.settle (some inner))
    else none

/-- What a statement contributes to the search for a name. -/
def items (name : String) (statement : Cursor) : List Item :=
  match form? statement with
  | some .declaration =>
    match matchDeclaration statement name with
    | some found => [.settle (some found)]
    | none => []
  | some .specifiers => specifierItems statement name
  | some .default => if name = "default" then [.settle (defaultValue statement)] else []
  | some .wildcard => [.ask statement name false]
  | some .namespaced =>
    ((statement.namedChildrenOf "namespace_export").filter (namespaceIsNamed name)).map
      fun clause => .settle (some clause)
  | none => []

/-- All that the search of a module for a name has to do, in order. It does not depend on the
answers of other modules. -/
def agenda (program : Cursor) (name : String) : List Item :=
  (statements program).flatMap (items name)

end ExportTrail.Export
