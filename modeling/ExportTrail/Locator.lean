import ExportTrail.Json
import ExportTrail.Locator.Specifier
import ExportTrail.Workspace

/-!
# Locating modules

A `Locator` finds the file that a specifier denotes. Under the candidate path it tries, in this
order, the file itself and with each extension appended; for a directory the entry that its
manifest names, as a file with and without extensions and then as a directory with an index; and
last the directory's own index. The answer is the canonical path of the file that was found, so
that one file has one name.
-/

namespace ExportTrail

/-- The extensions to try, in order, and the specifiers that are never followed. -/
structure Locator where
  extensions : List String
  ignored : List String
  deriving Repr

namespace Locator

/-- The extensions that are tried by default. -/
def defaultExtensions : List String := [".js", ".jsx", ".ts", ".tsx", ".mjs"]

/-- The specifiers that are not followed by default. -/
def defaultIgnored : List String := ["react"]

/-- The locator without any configuration. -/
def default : Locator := ⟨defaultExtensions, defaultIgnored⟩

/-- Whether a specifier is never followed. -/
def isIgnored (l : Locator) (specifier : String) : Bool := l.ignored.contains specifier

/-- The specifiers that are never followed, each once and in order. -/
def ignoredNames (l : Locator) : List String :=
  l.ignored.eraseDups.mergeSort fun a b => !decide (b < a)

/-! ## Files -/

/-- The path with an extension appended to its name. -/
def extend (p : Path) (extension : String) : Except Failure Path :=
  match p.name? with
  | none => .error (.emptyName p)
  | some name =>
    let extended := name ++ extension
    if Path.isName extended then .ok (p.withName extended)
    else .error (.invalidName extended)

/-- The paths under which a module may be found as a file. -/
def probes (l : Locator) (p : Path) : List (Except Failure Path) :=
  .ok p :: l.extensions.map (extend p)

/-- The first of some paths that denotes a regular file. A path that cannot be formed or looked up
ends the search. -/
def firstFile (ws : Workspace) : List (Except Failure Path) → Except Failure (Option Location)
  | [] => .ok none
  | .error e :: _ => .error e
  | .ok p :: ps =>
    match ws.world.regularFile? ws.cwd p with
    | .error fault => .error (.file fault p)
    | .ok (some l) => .ok (some l)
    | .ok none => firstFile ws ps

/-- The module as a file. -/
def asFile (l : Locator) (ws : Workspace) (p : Path) : Except Failure (Option Location) :=
  firstFile ws (l.probes p)

/-! ## Directories -/

/-- Whether a path denotes a directory. -/
def isDirectory (ws : Workspace) (p : Path) : Except Failure Bool :=
  match ws.world.isDirectory ws.cwd p with
  | .error fault => .error (.file fault p)
  | .ok b => .ok b

/-- The name of the file that describes a directory. -/
def manifestName : String := "package.json"

/-- The name under which a directory's own module is found. -/
def indexName : String := "index"

/-- The document that a file holds, if it can be read. It is a failure only that it is nested too
deeply. -/
def readManifest (ws : Workspace) (p : Path) : Except Failure (Option Json) :=
  match ws.readText p with
  | .error _ => .ok none
  | .ok text =>
    match Json.parse text with
    | .ok document => .ok (some document)
    | .error .malformed => .ok none
    | .error (.tooDeep innermost) => .error (.nestedTooDeep innermost)

/-- The main entry that the manifest of a directory names; an empty name is none. A manifest that
cannot be read is recorded and left out. -/
def mainEntry (ws : Workspace) (directory : Path) : Recorded (Option String) :=
  let p := directory.child manifestName
  match ws.world.regularFile? ws.cwd p with
  | .error fault => .quiet (.error (.file fault p))
  | .ok none => .quiet (.ok none)
  | .ok (some _) =>
    match readManifest ws p with
    | .error e => .quiet (.error e)
    | .ok none => ⟨.ok none, [.unreadableManifest p]⟩
    | .ok (some document) =>
      match (document.member? "main").bind Json.text? with
      | some main => .quiet (.ok (if main = "" then none else some main))
      | none => .quiet (.ok none)

/-- The index of a directory. -/
def index (l : Locator) (ws : Workspace) (directory : Path) : Except Failure (Option Location) :=
  match isDirectory ws directory with
  | .error e => .error e
  | .ok false => .ok none
  | .ok true => l.asFile ws (directory.child indexName)

/-- The module under a path, as a file or else by its index. -/
def asFileOrIndex (l : Locator) (ws : Workspace) (p : Path) : Except Failure (Option Location) :=
  match l.asFile ws p with
  | .ok none => l.index ws p
  | found => found

/-- The module of a directory: its main entry, or else its index. -/
def asDirectory (l : Locator) (ws : Workspace) (directory : Path) : Recorded (Option Location) :=
  match isDirectory ws directory with
  | .error e => .quiet (.error e)
  | .ok false => .quiet (.ok none)
  | .ok true =>
    let main := mainEntry ws directory
    match main.outcome with
    | .error e => ⟨.error e, main.events⟩
    | .ok none => ⟨l.index ws directory, main.events⟩
    | .ok (some entry) =>
      match l.asFileOrIndex ws (directory ++ Path.ofString entry) with
      | .ok none => ⟨l.index ws directory, main.events⟩
      | found => ⟨found, main.events⟩

/-! ## Specifiers -/

/-- The path that a specifier denotes below a directory. -/
def candidate (specifier : String) (base : Path) : Path :=
  base ++ Path.ofString (Specifier.confine specifier)

/-- The module under a path, as a file or else as a directory. -/
def search (l : Locator) (ws : Workspace) (p : Path) : Recorded (Option Location) :=
  match l.asFile ws p with
  | .ok none => l.asDirectory ws p
  | found => .quiet found

/-- The canonical path of the file that a specifier denotes below a directory, if there is one. -/
def find? (l : Locator) (ws : Workspace) (specifier : String) (base : Path) :
    Recorded (Option Path) :=
  if l.isIgnored specifier then .quiet (.ok none)
  else
    let found := l.search ws (candidate specifier base)
    ⟨found.outcome.map (·.map Location.toPath), found.events⟩

/-- The file that a specifier denotes below a directory given by its text. -/
def locate (l : Locator) (ws : Workspace) (specifier base : String) : Recorded Path :=
  let found := l.find? ws specifier (Path.ofString base)
  match found.outcome with
  | .error e => ⟨.error e, found.events⟩
  | .ok none => ⟨.error (.unresolvable specifier (some base)), found.events⟩
  | .ok (some path) => ⟨.ok path, found.events⟩

/-- The directory that the specifiers of a source are looked up in. -/
def baseDirectory (ws : Workspace) (o : Options) : Except Failure (Option Path) :=
  match o.root with
  | none => .ok none
  | some root => (ws.world.canonical ws.cwd root).map some

/-- The file that a specifier denotes in a source with given options. It is an answer, and no
failure, that the specifier is ignored, that the options lack a file name or a root, or that there
is no such file. -/
def locateFor (l : Locator) (ws : Workspace) (specifier : String) (o : Options) :
    Recorded (Option Path) :=
  if l.isIgnored specifier then ⟨.ok none, [.ignored specifier]⟩
  else
    match o.filename, o.root with
    | some _, some root =>
      match ws.world.canonical ws.cwd root with
      | .error e => .quiet (.error e)
      | .ok base =>
        let found := l.find? ws specifier base
        match found.outcome with
        | .ok none => ⟨.ok none, found.events ++ [.unresolvable specifier base.toString]⟩
        | outcome => ⟨outcome, found.events⟩
    | _, _ => ⟨.ok none, [.unconfigured specifier]⟩

end Locator

end ExportTrail
