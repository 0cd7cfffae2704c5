import ExportTrail.Node
import ExportTrail.Options

/-!
# Cursors

A `Cursor` is a node together with the way it was reached: the cursors it was taken from, up to one
that was taken from nothing. Options are attached where such a way starts, so that they are found
from every node that was reached from there.
-/

namespace ExportTrail

/-- A node and the way it was reached. -/
inductive Cursor
  /-- A node taken from nothing, with the options attached to it. -/
  | top (node : Node) (options : Option Options)
  /-- A node taken from another one. -/
  | via (parent : Cursor) (node : Node)

namespace Cursor

/-- The node that a cursor stands on. -/
def node : Cursor → Node
  | .top n _ => n
  | .via _ n => n

/-- The cursor that this one was taken from. -/
def parent? : Cursor → Option Cursor
  | .top _ _ => none
  | .via p _ => some p

/-- The kind of the node. -/
def kind (c : Cursor) : String := c.node.kind

/-- The text of the node. -/
def text (c : Cursor) : String := c.node.text

/-- What a cursor stands on and where: the kind of the node, its line and its column. -/
def position (c : Cursor) : String :=
  c.kind ++ " at " ++ toString c.node.line ++ ":" ++ toString c.node.column

/-- Whether an anonymous child is of a given kind. -/
def hasToken (c : Cursor) (token : String) : Bool := c.node.hasToken token

/-- Whether two cursors stand on the same node, however they were reached. -/
def same (a b : Cursor) : Bool := a.node.same b.node

/-- A cursor on the child that a field names. -/
def field? (c : Cursor) (name : String) : Option Cursor := (c.node.field? name).map (.via c)

/-- The cursor that a chain of fields leads to, if all of them are there. -/
def follow? (c : Cursor) : List String → Option Cursor
  | [] => some c
  | name :: names =>
    match c.field? name with
    | some d => d.follow? names
    | none => none

/-- Cursors on the named children, in order. -/
def namedChildren (c : Cursor) : List Cursor := c.node.namedChildren.map (.via c)

/-- Cursors on the named children of one kind, in order. -/
def namedChildrenOf (c : Cursor) (kind : String) : List Cursor :=
  c.namedChildren.filter (·.kind = kind)

/-- The cursor itself and those it was taken from, nearest first. -/
def ancestors : Cursor → List Cursor
  | .top n o => [.top n o]
  | .via p n => .via p n :: p.ancestors

/-- The options attached to a cursor. -/
def attached : Cursor → Option Options
  | .top _ o => o
  | .via _ _ => none

/-- The kind of the root of a parsed source. -/
def programKind : String := "program"

/-- The options of the source that a cursor belongs to: those attached to the nearest program among
the cursor and its ancestors, or empty ones. -/
def options (c : Cursor) : Options :=
  match c.ancestors.find? (·.kind = programKind) with
  | some program => program.attached.getD Options.empty
  | none => Options.empty

/-- The text without its first and its last character. -/
def unquoted (s : String) : String := String.ofList (s.toList.drop 1).dropLast

/-- The name that an identifier, or a string in its place, stands for. -/
def bindingName (c : Cursor) : String := if c.kind = "string" then unquoted c.text else c.text

/-- The text of a string without its quotes. -/
def stringValue? (c : Cursor) : Option String :=
  if c.kind = "string" then some (unquoted c.text) else none

end Cursor

end ExportTrail
