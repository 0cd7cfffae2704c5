import ExportTrail.Complaint
import ExportTrail.Path
import ExportTrail.Value

/-!
# Options

The options of a source say which file it was read from, which directory its specifiers are looked
up in and which grammar it is written in. Members that are not known are kept and passed on with the
rest to every file that is read on behalf of this one.
-/

namespace ExportTrail

/-- The options that a parsed source carries. -/
structure Options where
  /-- The file that the source was read from. -/
  filename : Option Path
  /-- The directory that specifiers are looked up in. -/
  root : Option Path
  /-- The name of the grammar, where it does not follow from the file. -/
  language : Option String
  /-- The members that are not known. -/
  extra : List (String × Value)
  deriving Repr

namespace Options

/-- Options without any member. -/
def empty : Options := ⟨none, none, none, []⟩

/-- The same options for another file. -/
def forFile (o : Options) (filename : Path) : Options := { o with filename := some filename }

/-- Whether two options have equal members. -/
def same (a b : Options) : Bool :=
  a.filename == b.filename && a.root == b.root && a.language == b.language &&
    Value.same (.record a.extra) (.record b.extra)

/-- The names of the known members. -/
def knownMembers : List String := ["filename", "root", "language"]

/-- A path given as a member; an absent or null member is no path. -/
def pathMember (members : List (String × Value)) (name : String) :
    Option Path × List Complaint :=
  match members.lookup name with
  | none => (none, [])
  | some .null => (none, [])
  | some (.text s) => (some (Path.ofString s), [])
  | some _ => (none, [⟨.notPath, [name]⟩])

/-- A text given as a member; an absent or null member is no text. -/
def textMember (members : List (String × Value)) (name : String) :
    Option String × List Complaint :=
  match members.lookup name with
  | none => (none, [])
  | some .null => (none, [])
  | some (.text s) => (some s, [])
  | some _ => (none, [⟨.notText, [name]⟩])

/-- The options with the given members, or all that is wrong with them. -/
def ofMembers (members : List (String × Value)) : Except (List Complaint) Options :=
  let (filename, c₁) := pathMember members "filename"
  let (root, c₂) := pathMember members "root"
  let (language, c₃) := textMember members "language"
  let extra := members.filter fun m => !knownMembers.contains m.1
  match c₁ ++ c₂ ++ c₃ with
  | [] => .ok ⟨filename, root, language, extra⟩
  | cs => .error cs

/-- Whether a name is free for private notes, which are no part of the options. -/
def isPrivate (name : String) : Bool := name.toList.head? = some '_'

/-- Setting a member of given options is refused; private notes leave them as they are. -/
def setMember (o : Options) (name : String) (_ : Value) : Except (List Complaint) Options :=
  if isPrivate name then .ok o else .error [⟨.frozen, [name]⟩]

end Options

end ExportTrail
