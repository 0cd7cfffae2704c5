import ExportTrail.Dialect
import ExportTrail.Failure

/-!
# Log

What happens on the way to an answer is recorded as a list of events, oldest first. Every event has
a level, the part of the library it comes from, and one wording.
-/

namespace ExportTrail

namespace Log

/-- How important an event is. -/
inductive Level
  | debug
  | info
  | warning
  | error
  | critical
  deriving DecidableEq, Repr

/-- The levels as numbers; a more important event has a higher one. -/
def Level.rank : Level → Nat
  | .debug => 10
  | .info => 20
  | .warning => 30
  | .error => 40
  | .critical => 50

/-- The name of a level. -/
def Level.name : Level → String
  | .debug => "DEBUG"
  | .info => "INFO"
  | .warning => "WARNING"
  | .error => "ERROR"
  | .critical => "CRITICAL"

/-- All levels. -/
def Level.all : List Level := [.debug, .info, .warning, .error, .critical]

/-- The level of a name. -/
def Level.ofName? (name : String) : Option Level := all.find? (·.name = name)

/-- The parts of the library that record events. -/
inductive Origin
  | parsing
  | loading
  | locating
  | searching
  deriving DecidableEq, Repr

/-- Something that happened. -/
inductive Event
  /-- A grammar was chosen for a source. -/
  | usingDialect (dialect : Dialect) (file : Option Path)
  /-- A source that one grammar refused was accepted by another. -/
  | fellBack (file : Option Path) (dialect : Dialect)
  /-- The text of a file, called by the name it was asked for, is about to be parsed. -/
  | parsingFile (name : String) (dialect : Dialect)
  /-- A specifier is not followed on purpose. -/
  | ignored (specifier : String)
  /-- A specifier cannot be followed for lack of a file name or root. -/
  | unconfigured (specifier : String)
  /-- A specifier leads to no file. -/
  | unresolvable (specifier base : String)
  /-- A manifest was left out because it cannot be read. -/
  | unreadableManifest (path : Path)
  /-- A module was entered before. -/
  | alreadyVisited (path : Path)
  /-- A chain of modules is as long as is allowed. -/
  | tooDeep (cap : Int) (name : String)
  deriving DecidableEq, Repr

namespace Event

/-- The level of an event. -/
def level : Event → Level
  | .unreadableManifest _ => .warning
  | .tooDeep _ _ => .warning
  | _ => .debug

/-- The part of the library that an event comes from. -/
def origin : Event → Origin
  | .usingDialect _ _ => .parsing
  | .fellBack _ _ => .parsing
  | .parsingFile _ _ => .loading
  | .ignored _ => .locating
  | .unconfigured _ => .locating
  | .unresolvable _ _ => .locating
  | .unreadableManifest _ => .locating
  | .alreadyVisited _ => .searching
  | .tooDeep _ _ => .searching

/-- How a source is called. -/
def sourceName : Option Path → String
  | none => unnamedSource
  | some path => path.toString

/-- The wording of an event. -/
def message : Event → String
  | .usingDialect dialect file => "Using " ++ dialect.name ++ " grammar for " ++ sourceName file
  | .fellBack file dialect =>
    "Parsed " ++ sourceName file ++ " with the " ++ dialect.name ++ " grammar"
  | .parsingFile name dialect => "Parsing " ++ name ++ " as " ++ dialect.name
  | .ignored specifier => "Not following ignored module '" ++ specifier ++ "'"
  | .unconfigured specifier =>
    "No filename/root configured, cannot resolve '" ++ specifier ++ "'"
  | .unresolvable specifier base => (Failure.unresolvable specifier (some base)).message
  | .unreadableManifest path => "Ignoring unreadable " ++ path.toString
  | .alreadyVisited path => "Already visited " ++ path.toString ++ ", skipping"
  | .tooDeep cap name =>
    "Re-export chain deeper than " ++ toString cap ++ " modules, giving up on '" ++ name ++ "'"

end Event

end Log

/-- The outcome of an operation and what happened on the way to it. -/
structure Recorded (α : Type) where
  outcome : Except Failure α
  events : List Log.Event

/-- An outcome on the way to which nothing happened. -/
def Recorded.quiet {α : Type} (outcome : Except Failure α) : Recorded α := ⟨outcome, []⟩

/-- The same outcome after earlier events. -/
def Recorded.after {α : Type} (events : List Log.Event) (r : Recorded α) : Recorded α :=
  ⟨r.outcome, events ++ r.events⟩

end ExportTrail
