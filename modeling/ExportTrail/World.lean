import ExportTrail.Path

/-!
# The world of files

A `World` is a finite table of entries: files, directories and symbolic links. A `Location` names an
entry by the chain of names that leads to it from the root. An entry exists only if its parent is a
directory (`World.lookup`), so that a table cannot hold anything out of reach.
-/

namespace ExportTrail

/-- The names that lead to an entry, the entry's own name first. The root is the empty list. -/
abbrev Location := List String

/-- The absolute path of a location. -/
def Location.toPath (l : Location) : Path := ⟨.root, l.reverse⟩

/-- What a name in a directory stands for. -/
inductive Entry
  | file (content : List UInt8)
  | directory
  /-- A symbolic link with the text of its target. -/
  | link (target : String)
  deriving DecidableEq, Repr

/-- A finite table of entries. -/
structure World where
  entries : List (Location × Entry)
  deriving Repr

/-- Why an operation on a file fails. -/
inductive FileFault
  | notFound
  | alreadyThere
  | notDirectory
  | isDirectory
  | nameTooLong
  | tooManyLinks
  /-- The path holds the character NUL, which no file name can. -/
  | nulCharacter
  deriving DecidableEq, Repr

namespace World

/-- A world whose only entry is the root. -/
def empty : World := ⟨[]⟩

/-- The entry at a location. The root is a directory, and everything else lies in one. -/
def lookup (w : World) : Location → Option Entry
  | [] => some .directory
  | name :: dir =>
    match w.lookup dir with
    | some .directory => w.entries.lookup (name :: dir)
    | _ => none

/-- The world with another entry at a location. -/
def insert (w : World) (l : Location) (e : Entry) : World :=
  ⟨(l, e) :: w.entries.filter (·.1 ≠ l)⟩

/-- The world without the entry at a location. -/
def erase (w : World) (l : Location) : World :=
  ⟨w.entries.filter (·.1 ≠ l)⟩

/-- The locations of the table, each as often as it is entered. -/
def locations (w : World) : List Location := w.entries.map (·.1)

/-- Only the root and the locations of the table have entries. -/
theorem mem_locations_of_lookup {w : World} {name : String} {dir : Location} {e : Entry}
    (h : w.lookup (name :: dir) = some e) : name :: dir ∈ w.locations := by
  rw [lookup] at h
  split at h
  · obtain ⟨l₁, l₂, e₁, -⟩ := List.lookup_eq_some_iff.1 h
    simp [locations, e₁]
  · simp at h

end World

end ExportTrail
