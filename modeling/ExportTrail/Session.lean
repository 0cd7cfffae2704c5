import ExportTrail.Import
import ExportTrail.Settings
import ExportTrail.Settings.DotEnv
import ExportTrail.World.Change

/-!
# Sessions

A `Session` is the state that outlives single operations: the workspace, the environment, the log
level of the library, the serial number of the next parse, and the default resolver, which is made
from the settings when it is first used and then kept.
-/

namespace ExportTrail

/-- The state that outlives single operations. -/
structure Session where
  workspace : Workspace
  environment : Variables String
  /-- The library's own log level; zero leaves the decision to the surroundings. -/
  level : Nat
  defaultResolver : Option Resolver
  /-- The serial number of the next parse. -/
  serial : Nat

namespace Session

/-- A session in which nothing has happened. -/
def start (workspace : Workspace) : Session := ⟨workspace, [], 0, none, 0⟩

/-! ## Log level -/

/-- The level that decides when the library has none of its own. -/
def outerLevel : Nat := Log.Level.warning.rank

/-- The level from which on events are shown. -/
def effectiveLevel (s : Session) : Nat := if s.level = 0 then outerLevel else s.level

/-- The events that are shown. -/
def shown (s : Session) (events : List Log.Event) : List Log.Event :=
  events.filter fun e => s.effectiveLevel ≤ e.level.rank

/-- The number of a log level given by any of its names. -/
def levelNumber? (name : String) : Option Nat :=
  match name with
  | "WARN" => some Log.Level.warning.rank
  | "FATAL" => some Log.Level.critical.rank
  | "NOTSET" => some 0
  | name => (Log.Level.ofName? name).map Log.Level.rank

/-- Sets the library's own log level by name. -/
def setLevel (s : Session) (name : String) : Except Failure Session :=
  match levelNumber? name with
  | some n => .ok { s with level := n }
  | none => .error (.unknownLevel name)

/-! ## Files and environment -/

/-- The session after a change of its files on account of a path. -/
def changeWorld (s : Session) (p : Path) (change : World → Location → Except FileFault World) :
    Except Failure Session :=
  let ws := s.workspace
  match change ws.world ws.cwd with
  | .ok world => .ok { s with workspace := { ws with world } }
  | .error fault => .error (.file fault p)

/-- Makes a directory and those above it. -/
def makeDirectory (s : Session) (p : Path) : Except Failure Unit × Session :=
  let ws := s.workspace
  let (outcome, world) := ws.world.makeDirectories ws.cwd p
  (outcome, { s with workspace := { ws with world } })

/-- The session after a change on account of a path, for which the directories above are made first.
They stay even if the change fails. -/
def changeWithin (s : Session) (p : Path) (change : World → Location → Except FileFault World) :
    Except Failure Unit × Session :=
  match s.makeDirectory p.parent with
  | (.error e, s) => (.error e, s)
  | (.ok _, s) =>
    match s.changeWorld p change with
    | .error e => (.error e, s)
    | .ok s => (.ok (), s)

/-- Writes a file, and makes the directories above it. -/
def write (s : Session) (p : Path) (content : List UInt8) : Except Failure Unit × Session :=
  s.changeWithin p fun w cwd => w.write cwd p content

/-- Makes a symbolic link, and the directories above it. -/
def link (s : Session) (p : Path) (target : String) : Except Failure Unit × Session :=
  s.changeWithin p fun w cwd => w.place cwd p (.link target)

/-- Removes a file or a link. -/
def remove (s : Session) (p : Path) : Except Failure Session :=
  s.changeWorld p fun w cwd => w.remove cwd p

/-- Changes the working directory to the one that a text leads to, taken as it is written. An empty
text leads nowhere. -/
def changeDirectory (s : Session) (text : String) : Except Failure Session :=
  let ws := s.workspace
  let p := Path.verbatim text
  if text = "" then .error (.file .notFound p)
  else match ws.world.followDirectory ws.cwd p with
    | .ok cwd => .ok { s with workspace := { ws with cwd } }
    | .error fault => .error (.file fault p)

/-- Sets or removes a variable of the environment. -/
def setVariable (s : Session) (name : String) (value : Option String) : Except Failure Session :=
  match value with
  | none => .ok { s with environment := Variables.unset name s.environment }
  | some value =>
    match Variables.fault? name value with
    | some fault => .error (.variable fault)
    | none => .ok { s with environment := Variables.put name value s.environment }

/-! ## Settings and the default resolver -/

/-- The file in the working directory that may hold variables. -/
def variableFile : Path := Path.ofString ".env"

/-- The variables of the file in the working directory, if there is one. -/
def fileVariables (s : Session) : Except Failure (Variables (Option String)) :=
  match s.workspace.world.regularFile? s.workspace.cwd variableFile with
  | .error fault => .error (.file fault variableFile)
  | .ok none => .ok []
  | .ok (some _) => (s.workspace.readText variableFile).map (DotEnv.parse s.environment)

/-- The settings that hold now, with given arguments. -/
def settings (s : Session) (arguments : List (String × Value)) : Except Failure Settings :=
  match s.fileVariables with
  | .error e => .error e
  | .ok file => Settings.ofSources ⟨arguments, s.environment, file⟩

/-- Makes a resolver from settings and takes over their log level. -/
def makeResolver (s : Session) (settings : Settings) : Resolver × Session :=
  (settings.resolver, { s with level := settings.logLevel.rank })

/-- The default resolver. It is made from the settings that hold when it is first used; settings
that are refused change nothing. -/
def useDefault (s : Session) : Except Failure Resolver × Session :=
  match s.defaultResolver with
  | some r => (.ok r, s)
  | none =>
    match s.settings [] with
    | .error e => (.error e, s)
    | .ok settings =>
      let (r, s) := s.makeResolver settings
      (.ok r, { s with defaultResolver := some r })

/-- Forgets the default resolver. -/
def clearDefault (s : Session) : Session := { s with defaultResolver := none }

/-! ## Parsing and searching -/

/-- Carries out an operation that needs the number of the next parse. -/
def withSerial (s : Session) (operation : Nat → Recorded Cursor) : Recorded Cursor × Session :=
  (operation s.serial, { s with serial := s.serial + 1 })

/-- Parses a source with the grammar that its options select. -/
def parse (s : Session) (o : Options) (source : List UInt8) : Recorded Cursor × Session :=
  s.withSerial fun serial => parseSource s.workspace.grammars o serial source

/-- The root of what a grammar makes of a source, flagged or not. -/
def parseAnyway (s : Session) (dialect : Dialect) (source : List UInt8) (o : Option Options) :
    Cursor × Session :=
  (.top (Node.root s.serial source (s.workspace.grammars dialect source).tree) o,
    { s with serial := s.serial + 1 })

/-- Reads and parses a module to start from. -/
def openModule (s : Session) (filename : Path) (root : Option Path)
    (members : List (String × Value)) : Recorded Cursor × Session :=
  s.withSerial fun serial => s.workspace.openModule serial filename root members

/-- Reads and parses the module whose path a text writes, on behalf of a file with given options. -/
def load (s : Session) (path : String) (o : Options) : Recorded Cursor × Session :=
  s.withSerial fun serial => s.workspace.loadAs serial path (Path.ofString path) o

/-- What is searched for. -/
inductive Query
  /-- A name that the module behind an edge exports. -/
  | resolve (edge : Cursor) (name : String)
  /-- A name that a module exports. -/
  | find (program : Cursor) (name : String)
  /-- A local name that an import statement binds. -/
  | binding (statement : Cursor) (localName : String)

/-- The search for a query with a given resolver. -/
def Query.run (q : Query) (r : Resolver) (ws : Workspace) (p : Search.Progress) :
    Search.Outcome × Search.Progress :=
  match q with
  | .resolve edge name => r.resolve ws edge name p
  | .find program name => r.findExported ws program name p
  | .binding statement localName => r.resolveBinding ws statement localName p

/-- Whether a query needs a resolver at all. -/
def Query.needsResolver : Query → Bool
  | .binding statement localName => (Import.exportedName? statement localName).isSome
  | _ => true

/-- Answers a query with the given resolver, or else with the default one, which is only used if the
query needs a resolver. `visited` are the modules that count as entered. -/
def search (s : Session) (r : Option Resolver) (q : Query) (visited : List Path) :
    (Search.Outcome × Search.Progress) × Session :=
  let p := Search.Progress.start visited s.serial
  let answer (r : Resolver) (s : Session) :=
    let found := q.run r s.workspace p
    (found, { s with serial := found.2.serial })
  match r with
  | some r => answer r s
  | none =>
    if q.needsResolver then
      match s.useDefault with
      | (.error e, s) => ((.error e, p), s)
      | (.ok r, s) => answer r s
    else ((.ok none, p), s)

end Session

end ExportTrail
