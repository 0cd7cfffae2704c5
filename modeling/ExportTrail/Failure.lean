import ExportTrail.Complaint
import ExportTrail.Json
import ExportTrail.Settings.Variables
import ExportTrail.Text.Utf8
import ExportTrail.World

/-!
# Failures

The causes for which an operation on files, sources, options or settings fails, with the one wording
of each (`Failure.message`).
-/

namespace ExportTrail

/-- The number that POSIX gives the cause of a failed file operation, and its description. A path
with a NUL is refused before any operation. -/
def FileFault.describe? : FileFault → Option (Nat × String)
  | .notFound => some (2, "No such file or directory")
  | .alreadyThere => some (17, "File exists")
  | .notDirectory => some (20, "Not a directory")
  | .isDirectory => some (21, "Is a directory")
  | .nameTooLong => some (36, "File name too long")
  | .tooManyLinks => some (40, "Too many levels of symbolic links")
  | .nulCharacter => none

/-- Why an operation fails. -/
inductive Failure
  /-- The file at a path cannot be used. -/
  | file (fault : FileFault) (path : Path)
  /-- A chain of links never ends. -/
  | linkLoop (path : Path)
  /-- A path without a name cannot be given another one. -/
  | emptyName (path : Path)
  /-- No file can have this name. -/
  | invalidName (name : String)
  /-- A file holds bytes that encode no text. -/
  | undecodable (malformed : Text.Utf8.Malformed)
  /-- A document holds too many containers within one another. -/
  | nestedTooDeep (innermost : Json.Container)
  /-- No grammar has this name. -/
  | unknownDialect (name : String)
  /-- A source text does not parse; line and column are those of the first flagged node. -/
  | brokenSource (filename : Option String) (line column : Int) (snippet : String)
  /-- No file belongs to a specifier. -/
  | unresolvable (specifier : String) (base : Option String)
  /-- A statement has no declaration where one is expected. -/
  | noDeclaration
  /-- Given options or settings break rules. -/
  | rejected (complaints : List Complaint)
  /-- The environment cannot hold a variable. -/
  | variable (fault : Variables.Fault)
  /-- A log level is given by something that is not text. -/
  | levelNotText (typeName : String)
  /-- No log level has this name. -/
  | unknownLevel (name : String)
  deriving DecidableEq, Repr

/-- How a source without a file name is called. -/
def unnamedSource : String := "<source>"

namespace Failure

/-- The wording of a broken source. An empty file name counts as none, an empty snippet is left
out. -/
def brokenSourceMessage (filename : Option String) (line column : Int) (snippet : String) :
    String :=
  let name := match filename with
    | none => unnamedSource
    | some name => if name = "" then unnamedSource else name
  let place := "Syntax error at " ++ name ++ ":" ++ toString line ++ ":" ++ toString column
  if snippet = "" then place else place ++ ": " ++ Text.quote snippet

/-- The wording of a specifier without a file. -/
def unresolvableMessage (specifier : String) (base : Option String) : String :=
  let what := "Cannot resolve module '" ++ specifier ++ "'"
  match base with
  | none => what
  | some base => what ++ " from " ++ base

/-- The wording for a variable that the environment cannot hold. -/
def variableMessage : Variables.Fault → String
  | .nulCharacter => "embedded null byte"
  | .illegalName => "illegal environment variable name"
  | .emptyName => "[Errno 22] Invalid argument"

/-- What a container is called. -/
def containerName : Json.Container → String
  | .array => "array"
  | .object => "object"

/-- The wording of a failure. -/
def message : Failure → String
  | .file fault path =>
    match fault.describe? with
    | some (number, text) =>
      "[Errno " ++ toString number ++ "] " ++ text ++ ": " ++ Text.quote path.toString
    | none => "embedded null byte"
  | .linkLoop path => "Symlink loop from " ++ Text.quote path.toString
  | .emptyName path => "PosixPath(" ++ Text.quote path.toString ++ ") has an empty name"
  | .invalidName name => "Invalid name " ++ Text.quote name
  | .undecodable malformed => malformed.message
  | .nestedTooDeep innermost =>
    "maximum recursion depth exceeded while decoding a JSON " ++ containerName innermost ++
      " from a unicode string"
  | .unknownDialect name => "No grammar registered for language '" ++ name ++ "'"
  | .brokenSource filename line column snippet => brokenSourceMessage filename line column snippet
  | .unresolvable specifier base => unresolvableMessage specifier base
  | .noDeclaration => "'NoneType' object has no attribute 'get'"
  | .rejected complaints => Complaint.messages complaints
  | .variable fault => variableMessage fault
  | .levelNotText typeName => "'" ++ typeName ++ "' object has no attribute 'upper'"
  | .unknownLevel name => "module 'logging' has no attribute '" ++ name ++ "'"

end Failure

end ExportTrail
