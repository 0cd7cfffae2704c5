import ExportTrail.Text.Quoted
import ExportTrail.Text.Split

/-!
# Paths

A path is an anchor and a list of parts. Reading a path from text drops empty parts and the part
`.`, and keeps `..`, whose meaning depends on links. Exactly two leading slashes are an anchor of
their own; any other number above zero counts as one.
-/

namespace ExportTrail

/-- Where a path starts. -/
inductive Anchor
  /-- At the working directory. -/
  | here
  /-- At the root. -/
  | root
  /-- At the root, written with two slashes. -/
  | twoSlashes
  deriving DecidableEq, Repr

/-- The text of an anchor. -/
def Anchor.toString : Anchor → String
  | .here => ""
  | .root => "/"
  | .twoSlashes => "//"

/-- A path: an anchor and the parts below it, outermost first. -/
structure Path where
  anchor : Anchor
  parts : List String
  deriving DecidableEq, Repr

namespace Path

/-- The anchor that a text starts with. -/
def anchorOf : List Char → Anchor
  | '/' :: '/' :: '/' :: _ => .root
  | '/' :: '/' :: _ => .twoSlashes
  | '/' :: _ => .root
  | _ => .here

/-- Whether a stretch between slashes counts as a part. -/
def isPart (s : String) : Bool := s != "" && s != "."

/-- The path that a text writes. -/
def ofString (s : String) : Path where
  anchor := anchorOf s.toList
  parts := (Text.pieces '/' s).filter isPart

/-- The path that a text writes, with every stretch between slashes kept as a part. Its text is the
text that it was read from. -/
def verbatim (s : String) : Path :=
  match s.toList with
  | '/' :: rest => ⟨.root, Text.pieces '/' (String.ofList rest)⟩
  | _ => ⟨.here, Text.pieces '/' s⟩

/-- The text of a path; a path without anchor and parts is written `.`. -/
def toString (p : Path) : String :=
  if p.anchor = .here ∧ p.parts = [] then "."
  else p.anchor.toString ++ String.intercalate "/" p.parts

/-- The stretches of a text with a slash between any two neighbours make up the text. -/
theorem intercalate_pieces (s : String) : String.intercalate "/" (Text.pieces '/' s) = s := by
  have h (ws : List (List Char)) :
      (String.intercalate "/" (ws.map String.ofList)).toList = Text.join '/' ws := by
    induction ws with
    | nil => simp [Text.join]
    | cons w ws ih => cases ws <;> simp_all [Text.join]
  rw [← String.toList_inj, Text.pieces, h, Text.join_split]

theorem toString_verbatim (s : String) : (verbatim s).toString = s := by
  unfold verbatim
  split
  · next rest h =>
    rw [← String.toList_inj, h]
    simp [toString, Anchor.toString, intercalate_pieces, -String.toList_intercalate]
  · have : Text.pieces '/' s ≠ [] := by simp [Text.pieces, Text.split_ne_nil]
    simp [toString, Anchor.toString, this, intercalate_pieces]

/-- Whether a path does not depend on the working directory. -/
def isAbsolute (p : Path) : Bool := p.anchor ≠ .here

/-- The path `q` seen from `p`. -/
def append (p q : Path) : Path :=
  match q.anchor with
  | .here => ⟨p.anchor, p.parts ++ q.parts⟩
  | _ => q

instance : Append Path := ⟨append⟩

/-- The path of a name inside the directory `p`. -/
def child (p : Path) (name : String) : Path := ⟨p.anchor, p.parts ++ [name]⟩

/-- The last part, if there is one. -/
def name? (p : Path) : Option String := p.parts.getLast?

/-- The path without its last part. -/
def parent (p : Path) : Path := ⟨p.anchor, p.parts.dropLast⟩

/-- Whether a text can stand for the last part of a path: apart from slashes and dots that add
nothing it holds one part, and no slash ends it. -/
def isName (name : String) : Bool :=
  let p := ofString name
  p.anchor = .here && p.parts.length = 1 && name.toList.getLast? != some '/'

/-- The path with another last part. What adds nothing to the part is kept as it is written. -/
def withName (p : Path) (name : String) : Path :=
  ⟨p.anchor, p.parts.dropLast ++ Text.pieces '/' name⟩

/-- The part of a name from its last dot on. A dot at either end of the name starts no suffix. -/
def suffixOfName (name : List Char) : List Char :=
  let tail := (name.reverse.takeWhile (· ≠ '.')).reverse
  if tail = [] ∨ name.length ≤ tail.length + 1 then [] else '.' :: tail

/-- The suffix of the last part. -/
def suffix (p : Path) : String :=
  String.ofList (suffixOfName ((p.name?.getD "").toList))

/-- Whether a part, or a text that became part of a path, holds the character NUL. -/
def isNulPart (part : String) : Bool := part.toList.contains '\x00'

/-- Whether the path holds the character NUL. -/
def hasNul (p : Path) : Bool := p.parts.any isNulPart

end Path

end ExportTrail
