import ExportTrail.Search

/-!
# The search by recursion

The same search without a stack: `request` enters the module behind an edge and goes through its
export statements, and calls itself for every other module that a statement refers to. Its first
argument is the place of the module on its chain; behind the last place that the resolver allows, a
request is refused.
-/

namespace ExportTrail.Search.Recursive

/-- How requests for other modules are answered. -/
abbrev Ask := Cursor → String → Progress → Outcome × Progress

/-- Does the same work for each member of a list, in order. The work is given the result so far and
gives the next one; a failure ends it. -/
def forAll {α : Type} (work : α → Option Cursor → Progress → Outcome × Progress) :
    List α → Option Cursor → Progress → Outcome × Progress
  | [], result, p => (.ok result, p)
  | a :: as, result, p =>
    match work a result p with
    | (.error e, p) => (.error e, p)
    | (.ok result, p) => forAll work as result p

/-- The work on one specifier of a statement, given by its exported name and its local one. Its
answer replaces the result so far, even if it is nothing. -/
def specifier (ask : Ask) (statement : Cursor) (name : String) (s : String × Cursor)
    (result : Option Cursor) (p : Progress) : Outcome × Progress :=
  if s.1 = name then
    if (statement.field? "source").isSome then ask statement s.2.bindingName p
    else (.ok (some s.2), p)
  else (.ok result, p)

/-- The namespace export of a statement that is for a name, the last one if there are several. -/
def namespaced? (statement : Cursor) (name : String) : Option Cursor :=
  ((statement.namedChildrenOf "namespace_export").filter (Export.namespaceIsNamed name)).getLast?

/-- The work on one export statement. -/
def statement (ask : Ask) (name : String) (s : Cursor) (result : Option Cursor) (p : Progress) :
    Outcome × Progress :=
  match Export.form? s with
  | some .declaration => (.ok ((Export.matchDeclaration s name).or result), p)
  | some .specifiers => forAll (specifier ask s name) (Export.specifiers s) result p
  | some .default => (.ok (if name = "default" then Export.defaultValue s else result), p)
  | some .wildcard =>
    match ask s name p with
    | (.ok none, p) => (.ok result, p)
    | answered => answered
  | some .namespaced => (.ok ((namespaced? s name).or result), p)
  | none => (.ok result, p)

/-- Searches a module that is already parsed. -/
def module (ask : Ask) (program : Cursor) (name : String) (p : Progress) : Outcome × Progress :=
  forAll (statement ask name) (Export.statements program) none p

variable (r : Resolver) (ws : Workspace)

/-- Refuses a request. -/
def refuse : Ask := fun _ name p => (.ok none, p.record [.tooDeep r.maxDepth name])

/-- Enters the module behind an edge and searches it. -/
def visit (ask : Ask) : Ask := fun edge name p =>
  match enter r ws edge p with
  | (.error e, p) => (.error e, p)
  | (.ok none, p) => (.ok none, p)
  | (.ok (some program), p) => module ask program name p

/-- Answers a request for the module at a place of the chain. -/
def request (depth : Nat) : Ask :=
  visit r ws (if (depth : Int) < r.maxDepth then request (depth + 1) else refuse r)
termination_by (r.maxDepth - depth).toNat
decreasing_by omega

/-- Answers the requests of the module at a place of the chain. -/
def asker (depth : Nat) : Ask :=
  if (depth : Int) < r.maxDepth then request r ws (depth + 1) else refuse r

/-- Asks the module behind an edge for a name that it exports. -/
def resolve (edge : Cursor) (name : String) (p : Progress) : Outcome × Progress :=
  request r ws 1 edge name p

/-- Asks a module that is already parsed for a name that it exports. It is the first of its
chain. -/
def findExported (program : Cursor) (name : String) (p : Progress) : Outcome × Progress :=
  module (asker r ws 1) program name p

end ExportTrail.Search.Recursive
