import ExportTrail.Parsing
import ExportTrail.Text.Newline
import ExportTrail.World.Canonical

/-!
# Workspaces

A `Workspace` is what searches run over: the files, the directory that relative paths start from and
the grammars. Modules are read from it as UTF-8 with unified line ends (`Workspace.load`), each with
the options of the file that led to it, retargeted.
-/

namespace ExportTrail

/-- Files, a working directory and grammars. -/
structure Workspace where
  world : World
  cwd : Location
  grammars : Grammars

namespace Workspace

/-- The text of a file, its lines ended by LF. -/
def readText (ws : Workspace) (path : Path) : Except Failure (List Char) :=
  match ws.world.read ws.cwd path with
  | .error fault => .error (.file fault path)
  | .ok content =>
    match Text.Utf8.decode content with
    | .error malformed => .error (.undecodable malformed)
    | .ok text => .ok (Text.unifyNewlines text)

/-- Reads and parses a module file, with given options retargeted to it. Events call the file by the
given name. -/
def loadAs (ws : Workspace) (serial : Nat) (name : String) (path : Path) (o : Options) :
    Recorded Cursor :=
  match ws.readText path with
  | .error e => .quiet (.error e)
  | .ok text =>
    let o := o.forFile path
    let chosen := chooseGrammar o
    match chosen.outcome with
    | .error e => ⟨.error e, chosen.events⟩
    | .ok choice =>
      (parseWith ws.grammars choice o serial (Text.Utf8.encode text)).after
        (chosen.events ++ [.parsingFile name choice.dialect])

/-- Reads and parses the module file at a path, with given options retargeted to it. -/
def load (ws : Workspace) (serial : Nat) (path : Path) (o : Options) : Recorded Cursor :=
  ws.loadAs serial path.toString path o

/-- Reads and parses a module file to start from. Its path is made canonical; the root is the
file's own directory unless one is given. -/
def openModule (ws : Workspace) (serial : Nat) (filename : Path) (root : Option Path)
    (members : List (String × Value)) : Recorded Cursor :=
  match ws.world.canonical ws.cwd filename with
  | .error e => .quiet (.error e)
  | .ok path =>
    match Options.ofMembers members with
    | .error cs => .quiet (.error (.rejected cs))
    | .ok o =>
      ws.load serial path { o with filename := some path, root := some (root.getD path.parent) }

end Workspace

end ExportTrail
