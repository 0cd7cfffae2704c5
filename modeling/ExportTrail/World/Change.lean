import ExportTrail.Failure
import ExportTrail.World.Walk

/-!
# Changing the world

Making directories and links, and writing and removing files. An entry is made in a directory that
is there already; `World.makeDirectories` makes a directory with all that are missing above it. A
path is followed up to the entry itself, and a file is written through links even if nothing stands
at their end yet (`World.destination`).
-/

namespace ExportTrail.World

/-! ## Sites -/

/-- Where an entry is, or may be put. -/
structure Site where
  dir : Location
  name : String
  /-- How many links may still be followed from here. -/
  links : Nat
  deriving DecidableEq, Repr

/-- The location of the entry. -/
def Site.location (s : Site) : Location := s.name :: s.dir

/-- The site of a path's entry, found by following at most `links` links. A path without a name is
refused with a fault of the caller's choice. -/
def siteWithin (w : World) (links : Nat) (cwd : Location) (p : Path) (unnamed : FileFault) :
    Except FileFault Site :=
  if p.hasNul then .error .nulCharacter
  else if maxPathBytes ≤ p.toString.utf8ByteSize then .error .nameTooLong
  else match w.walk links (start cwd p) p.parent.parts with
    | .error fault => .error fault
    | .ok ⟨dir, links⟩ =>
      if w.lookup dir ≠ some .directory then .error .notDirectory
      else match p.name? with
        | none => .error unnamed
        | some name =>
          if name = ".." then .error unnamed
          else if maxNameBytes < name.utf8ByteSize then .error .nameTooLong
          else .ok ⟨dir, name, links⟩

/-- Finding a site gains no links. -/
theorem links_le_of_siteWithin {w : World} {links : Nat} {cwd : Location} {p : Path}
    {unnamed : FileFault} {s : Site} (h : w.siteWithin links cwd p unnamed = .ok s) :
    s.links ≤ links := by
  unfold siteWithin at h
  split at h
  · simp at h
  split at h
  · simp at h
  split at h
  · simp at h
  next e =>
    have := links_le_of_walk e
    grind

/-- The site of a path's entry. -/
def site (w : World) (cwd : Location) (p : Path) (unnamed : FileFault) : Except FileFault Site :=
  w.siteWithin maxLinks cwd p unnamed

/-! ## Directories and links -/

/-- Puts an entry where none is. -/
def place (w : World) (cwd : Location) (p : Path) (e : Entry) : Except FileFault World :=
  match w.site cwd p .alreadyThere with
  | .error fault => .error fault
  | .ok site =>
    match w.lookup site.location with
    | some _ => .error .alreadyThere
    | none => .ok (w.insert site.location e)

/-- Makes a directory unless it is there. A link counts as what it leads to; one to a name that is
too long is refused for that. -/
def makeDirectory (w : World) (cwd : Location) (p : Path) : Except FileFault World :=
  match w.place cwd p .directory with
  | .error .alreadyThere =>
    match w.isDirectory cwd p with
    | .ok true => .ok w
    | .ok false => .error .alreadyThere
    | .error fault => .error fault
  | outcome => outcome

/-- Makes the directory whose parts are given, innermost first, with those that are missing above
it. -/
def makeDirectoriesFrom (w : World) (cwd : Location) (anchor : Anchor) :
    List String → Except Failure Unit × World
  | [] => (.ok (), w)
  | part :: above =>
    let p : Path := ⟨anchor, (part :: above).reverse⟩
    let made (w : World) : Except Failure Unit × World :=
      match w.makeDirectory cwd p with
      | .ok w => (.ok (), w)
      | .error fault => (.error (.file fault p), w)
    match w.makeDirectory cwd p with
    | .error .notFound =>
      match w.makeDirectoriesFrom cwd anchor above with
      | (.ok _, w) => made w
      | failed => failed
    | _ => made w

/-- Makes a directory with those that are missing above it. What has been made stays, even if
something further in cannot be made. -/
def makeDirectories (w : World) (cwd : Location) (p : Path) : Except Failure Unit × World :=
  w.makeDirectoriesFrom cwd p.anchor p.parts.reverse

/-! ## Files -/

/-- Whether the end of a text says that it denotes a directory. -/
def saysDirectory (text : String) : Bool :=
  (Text.pieces '/' text).getLast?.all fun part => part = "" || part = "."

/-- The path of what a text names in front of its last stretch, slashes at its end aside. A dot is
a stretch like any other. -/
def pathAbove (text : String) : Path :=
  let above := ((Text.pieces '/' text).reverse.dropWhile (· = "")).tail.reverse
  ⟨Path.anchorOf text.toList, above.filter Path.isPart⟩

/-- Why no file can be written where a text leads that says it denotes a directory. Nobody looks at
what its last stretch stands for, but all that is above has to be there. -/
def directoryFault (w : World) (links : Nat) (dir : Location) (text : String) : FileFault :=
  let above := pathAbove text
  match w.walk links (start dir above) above.parts with
  | .ok a => if w.lookup a.location = some .directory then .isDirectory else .notDirectory
  | .error fault => fault

/-- Where a file written at a site ends up. -/
def destination (w : World) (s : Site) : Except FileFault Location :=
  match w.lookup s.location with
  | some .directory => .error .isDirectory
  | some (.link target) =>
    match _ : s.links with
    | 0 => .error .tooManyLinks
    | links + 1 =>
      if saysDirectory target then .error (w.directoryFault links s.dir target)
      else match h : w.siteWithin links s.dir (Path.ofString target) .isDirectory with
        | .error fault => .error fault
        | .ok next =>
          have := links_le_of_siteWithin h
          w.destination next
  | _ => .ok s.location
termination_by s.links

/-- Writes a file. -/
def write (w : World) (cwd : Location) (p : Path) (content : List UInt8) :
    Except FileFault World :=
  match w.site cwd p .isDirectory with
  | .error fault => .error fault
  | .ok site =>
    match w.destination site with
    | .error fault => .error fault
    | .ok l => .ok (w.insert l (.file content))

/-- Removes a file or a link; of a link nothing but itself. -/
def remove (w : World) (cwd : Location) (p : Path) : Except FileFault World :=
  match w.site cwd p .isDirectory with
  | .error fault => .error fault
  | .ok site =>
    match w.lookup site.location with
    | none => .error .notFound
    | some .directory => .error .isDirectory
    | some _ => .ok (w.erase site.location)

end ExportTrail.World
