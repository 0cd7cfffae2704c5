import ExportTrail.Failure
import ExportTrail.World.Walk

/-!
# Canonical paths

`World.canonical` gives the absolute path without links that belongs to any path, whether or not
something is there: what does not exist is taken as a plain name, and `..` after it drops it again.
Two things are errors: a link that leads back to itself, and a name with a NUL that has to be looked
up or is left at the end. Behind a link that leads back to itself nothing is looked up, so that `..`
drops such a name there like any other.

The path is read part by part. A `Trail` is what has been read of it so far; `canonicalFrom` keeps
the links that have been entered with the trail each led to, so that a link met again on the way
through itself is recognised.
-/

namespace ExportTrail.World

/-- The part of a path that has been read, from the root or the working directory on, innermost
name first. The outermost names of a relative trail may be `..`. -/
structure Trail where
  anchor : Anchor
  names : List String
  deriving DecidableEq, Repr

namespace Trail

/-- The trail one level up. -/
def up (t : Trail) : Trail :=
  match t.names with
  | [] => if t.anchor = .here then ⟨.here, [".."]⟩ else t
  | ".." :: _ => ⟨t.anchor, ".." :: t.names⟩
  | _ :: names => ⟨t.anchor, names⟩

/-- The trail one name further. -/
def down (t : Trail) (name : String) : Trail := ⟨t.anchor, name :: t.names⟩

/-- Where a trail stands, seen from a working directory. -/
def location (cwd : Location) (t : Trail) : Location :=
  if t.anchor = .here then t.names.filter (· ≠ "..") ++ cwd.drop (t.names.count "..")
  else t.names

/-- The trail followed by parts as they are written; parts that write an absolute path replace
it. -/
def followedBy (t : Trail) (parts : List String) : Trail :=
  match Path.anchorOf (String.intercalate "/" parts).toList with
  | .here => ⟨t.anchor, parts.reverse ++ t.names⟩
  | anchor => ⟨anchor, parts.reverse⟩

/-- The trail followed by all that is left to read, as it is written. -/
def asWritten (t : Trail) (rest : List String) (outer : List (Trail × List String)) : Trail :=
  outer.foldl (fun t o => t.followedBy o.2) (t.followedBy rest)

/-- Where the target of a link starts when the link stands in the directory of this trail. -/
def linkStart (t : Trail) (target : String) : Trail :=
  match target.toList with
  | '/' :: _ => ⟨.root, []⟩
  | _ => t

/-- The location that the text of a trail writes, dots resolved within the text. -/
def flatten (cwd : Location) (t : Trail) : Location :=
  t.names.reverse.foldl
    (fun l name => if name = "" ∨ name = "." then l else if name = ".." then l.tail else name :: l)
    (if t.anchor = .here then cwd else [])

/-- The absolute path that the text of a trail writes. -/
def toPath (cwd : Location) (t : Trail) : Path :=
  ⟨if t.anchor = .here then .root else t.anchor, (t.flatten cwd).reverse⟩

end Trail

/-- The target of the link at a location, if a link is there. -/
def linkAt? (w : World) (l : Location) : Option String :=
  match w.lookup l with
  | some (.link target) => some target
  | _ => none

/-- The size of the reading that is left: the parts of the innermost text and of those around it. -/
def pending : List String → List (Trail × List String) → Nat
  | todo, [] => todo.length
  | todo, (_, rest) :: outer => todo.length + 1 + pending rest outer

theorem pending_cons (part : String) (rest : List String) (outer : List (Trail × List String)) :
    pending (part :: rest) outer = pending rest outer + 1 := by
  cases outer with
  | nil => rfl
  | cons o outer => simp only [pending, List.length_cons]; omega

/-- Reads on from the trail `t`. `todo` is what is left of the innermost text, `outer` holds the
links whose targets are being read, each with what is left of the text that named it, and `seen`
maps every link entered to the trail it led to, once that is known. A link that is met while its own
target is being read ends the reading: all that is left is added as it is written. At most `links`
links are entered. A name that holds a NUL cannot be looked up. -/
def canonicalFrom (w : World) (cwd : Location) (links : Nat) (seen : List (Trail × Option Trail))
    (t : Trail) (todo : List String) (outer : List (Trail × List String)) :
    Except FileFault Trail :=
  match todo with
  | [] =>
    match outer with
    | [] => .ok t
    | (key, rest) :: outer => w.canonicalFrom cwd links ((key, some t) :: seen) t rest outer
  | part :: rest =>
    if part = "" ∨ part = "." then w.canonicalFrom cwd links seen t rest outer
    else if part = ".." then w.canonicalFrom cwd links seen t.up rest outer
    else if Path.isNulPart part then .error .nulCharacter
    else
      let next := t.down part
      match w.linkAt? (next.location cwd) with
      | none => w.canonicalFrom cwd links seen next rest outer
      | some target =>
        match seen.lookup next with
        | some (some known) => w.canonicalFrom cwd links seen known rest outer
        | some none => .ok (next.asWritten rest outer)
        | none =>
          match links with
          | 0 => .ok (next.asWritten rest outer)
          | links + 1 =>
            w.canonicalFrom cwd links ((next, none) :: seen) (t.linkStart target)
              (Text.pieces '/' target) ((next, rest) :: outer)
termination_by (links, pending todo outer)
decreasing_by
  all_goals simp_all [pending, pending_cons, Prod.lex_def]

/-- A bound on the links that are entered in reading a path: as many as a walk follows, and one for
each trail that can stand at a link, that is, the absolute one and a relative one for each way up from
the working directory. -/
def linkBound (w : World) (cwd : Location) : Nat :=
  maxLinks + w.entries.length * (cwd.length + 2)

/-- The absolute path without links and dots that belongs to a path. -/
def canonical (w : World) (cwd : Location) (p : Path) : Except Failure Path :=
  let origin : Trail := ⟨if p.isAbsolute then .root else .here, []⟩
  match w.canonicalFrom cwd (w.linkBound cwd) [] origin p.parts [] with
  | .error fault => .error (.file fault p)
  | .ok t =>
    let path := t.toPath cwd
    match w.follow cwd path with
    | .error .tooManyLinks => .error (.linkLoop path)
    | .error .nulCharacter => .error (.file .nulCharacter path)
    | _ => .ok path

end ExportTrail.World
