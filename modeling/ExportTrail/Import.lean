import ExportTrail.Search

/-!
# Import bindings

An import statement binds local names to exports of the module it names. `Import.exportedName?`
says which export a local name is bound to, and `Resolver.resolveBinding` searches for it.
-/

namespace ExportTrail

namespace Import

/-- The export that a specifier binds to a local name, if it binds a value to that name. -/
def specifierName? (localName : String) (specifier : Cursor) : Option String :=
  if Export.isTypeOnly specifier then none
  else
    match specifier.field? "name" with
    | none => none
    | some imported =>
      if ((specifier.field? "alias").getD imported).text = localName then some imported.bindingName
      else none

/-- The export that one part of an import clause binds to a local name. -/
def partName? (localName : String) (part : Cursor) : Option String :=
  if part.kind = "identifier" then if part.text = localName then some "default" else none
  else if part.kind = "named_imports" then
    (part.namedChildrenOf "import_specifier").findSome? (specifierName? localName)
  else none

/-- The export that an import statement binds to a local name. Imports of types, and of whole
modules, bind none. -/
def exportedName? (statement : Cursor) (localName : String) : Option String :=
  if Export.isTypeOnly statement then none
  else
    (statement.namedChildrenOf "import_clause").findSome? fun clause =>
      clause.namedChildren.findSome? (partName? localName)

end Import

/-- Searches for what an import statement binds to a local name. A name that the statement does not
bind to a value is not searched for. -/
def Resolver.resolveBinding (r : Resolver) (ws : Workspace) (statement : Cursor)
    (localName : String) (p : Search.Progress) : Search.Outcome × Search.Progress :=
  match Import.exportedName? statement localName with
  | none => (.ok none, p)
  | some name => r.resolve ws statement name p

end ExportTrail
