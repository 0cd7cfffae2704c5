import ExportTrail.World

/-!
# Walking a path

`World.walk` follows a path name by name, through links, as the operating system does: `..` goes
up from where the walk stands and not from where the text says, at most forty links are followed,
and a name has at most 255 bytes. The walk ends at a location, which holds neither links nor dots,
so the location of a walk is the canonical name of what the path denotes.
-/

namespace ExportTrail.World

/-- The most bytes that one name may have. -/
def maxNameBytes : Nat := 255

/-- Paths of this many bytes are refused. -/
def maxPathBytes : Nat := 4096

/-- The most links that one walk follows. -/
def maxLinks : Nat := 40

/-- Where the target of a link starts when the link stands in `dir`. -/
def linkStart (dir : Location) (target : String) : Location :=
  match target.toList with
  | '/' :: _ => []
  | _ => dir

/-- The end of a walk. -/
structure Arrival where
  location : Location
  /-- How many links the walk could still have followed. -/
  links : Nat
  deriving DecidableEq, Repr

/-- Walks from a directory through the given parts, following at most `links` links. -/
def walk (w : World) (links : Nat) (here : Location) (todo : List String) :
    Except FileFault Arrival :=
  match todo with
  | [] => .ok ⟨here, links⟩
  | part :: rest =>
    if part = "" ∨ part = "." then w.walk links here rest
    else if part = ".." then w.walk links here.tail rest
    else if maxNameBytes < part.utf8ByteSize then .error .nameTooLong
    else match w.lookup (part :: here) with
      | none => .error .notFound
      | some .directory => w.walk links (part :: here) rest
      | some (.file _) => if rest = [] then .ok ⟨part :: here, links⟩ else .error .notDirectory
      | some (.link target) =>
        match links with
        | 0 => .error .tooManyLinks
        | links + 1 => w.walk links (linkStart here target) (Text.pieces '/' target ++ rest)
termination_by (links, todo.length)

/-- A walk gains no links. -/
theorem links_le_of_walk {w : World} {links : Nat} {here : Location} {todo : List String}
    {a : Arrival} (h : w.walk links here todo = .ok a) : a.links ≤ links := by
  fun_induction walk w links here todo <;> grind

/-- Where a path starts, seen from a working directory. -/
def start (cwd : Location) (p : Path) : Location :=
  match p.anchor with
  | .here => cwd
  | _ => []

/-- The location that a path denotes, seen from a working directory. -/
def follow (w : World) (cwd : Location) (p : Path) : Except FileFault Location :=
  if p.hasNul then .error .nulCharacter
  else if maxPathBytes ≤ p.toString.utf8ByteSize then .error .nameTooLong
  else (w.walk maxLinks (start cwd p) p.parts).map Arrival.location

/-- The directory that a path leads to. -/
def followDirectory (w : World) (cwd : Location) (p : Path) : Except FileFault Location :=
  match w.follow cwd p with
  | .error fault => .error fault
  | .ok l => if w.lookup l = some .directory then .ok l else .error .notDirectory

/-- The content of the file that a path denotes. -/
def read (w : World) (cwd : Location) (p : Path) : Except FileFault (List UInt8) :=
  match w.follow cwd p with
  | .error e => .error e
  | .ok l =>
    match w.lookup l with
    | some (.file content) => .ok content
    | some .directory => .error .isDirectory
    | _ => .error .notFound

/-- The location of the regular file that a path denotes, if it denotes one. A name that is too
long is an error; whatever else keeps the path from denoting a file is not. -/
def regularFile? (w : World) (cwd : Location) (p : Path) : Except FileFault (Option Location) :=
  match w.follow cwd p with
  | .error .nameTooLong => .error .nameTooLong
  | .error _ => .ok none
  | .ok l =>
    match w.lookup l with
    | some (.file _) => .ok (some l)
    | _ => .ok none

/-- Whether a path denotes a directory, with the same exception. -/
def isDirectory (w : World) (cwd : Location) (p : Path) : Except FileFault Bool :=
  match w.follow cwd p with
  | .error .nameTooLong => .error .nameTooLong
  | .error _ => .ok false
  | .ok l => .ok (w.lookup l = some .directory)

end ExportTrail.World
