import ExportTrail.Settings.Variables
import ExportTrail.Text.Blank

/-!
# Files of variables

A file of variables has a line `NAME=value` for each. The word `export` may stand in front of the
name, blanks may stand around the equals sign, and the value may be put between single or double
quotes. A `#` starts a comment at the beginning of a line, after a quoted value, and after a blank
in an unquoted one. A name without an equals sign has no value. A line that fits none of this is
skipped. A byte order mark in front of the first line does not belong to it.

In every value a reference such as `${NAME}` or `${NAME:-default}` stands for the value of a variable
that an earlier line has set or that the environment has (`expand`).
-/

namespace ExportTrail.DotEnv

/-- A blank that does not end the line. -/
def isInlineBlank (c : Char) : Bool := Text.isBlank c && c != '\n' && c != '\r'

/-- Whether a character ends a line. -/
def isLineEnd (c : Char) : Bool := c == '\n' || c == '\r'

/-- The text after its leading blanks, within the line. -/
def skipBlanks (s : List Char) : List Char := s.dropWhile isInlineBlank

/-- The text after the end of the line. -/
def afterLine (s : List Char) : List Char :=
  match s.dropWhile (!isLineEnd ·) with
  | '\r' :: '\n' :: s => s
  | _ :: s => s
  | [] => []

/-! ## Quoted values -/

/-- A text up to its closing quote, and what follows the quote. The character after a backslash
belongs to the text, whatever it is. -/
def quoted? (quote : Char) : List Char → Option (List Char × List Char)
  | [] => none
  | '\\' :: c :: s => (quoted? quote s).map fun (body, rest) => ('\\' :: c :: body, rest)
  | c :: s =>
    if c = quote then some ([], s)
    else (quoted? quote s).map fun (body, rest) => (c :: body, rest)

/-- The character that an escape between double quotes stands for. -/
def doubleEscape? : Char → Option Char
  | '\\' => some '\\'
  | '\'' => some '\''
  | '"' => some '"'
  | 'a' => some '\x07'
  | 'b' => some '\x08'
  | 'f' => some '\x0c'
  | 'n' => some '\n'
  | 'r' => some '\r'
  | 't' => some '\t'
  | 'v' => some '\x0b'
  | _ => none

/-- The character that an escape between single quotes stands for. -/
def singleEscape? : Char → Option Char
  | '\\' => some '\\'
  | '\'' => some '\''
  | _ => none

/-- The text with its escapes replaced. -/
def unescape (escape? : Char → Option Char) : List Char → List Char
  | [] => []
  | '\\' :: c :: s =>
    match escape? c with
    | some d => d :: unescape escape? s
    | none => '\\' :: unescape escape? (c :: s)
  | c :: s => c :: unescape escape? s

/-! ## Values -/

/-- The text before a comment, which starts at a `#` after a blank. -/
def beforeComment : List Char → List Char
  | [] => []
  | c :: s =>
    if Text.isBlank c ∧ (s.dropWhile Text.isBlank).head? = some '#' then []
    else c :: beforeComment s

/-- An unquoted value: what stands after the equals sign, without comment and without blanks at
either end. -/
def unquoted (line : List Char) : List Char := Text.trim (beforeComment line)

/-- The value that stands after an equals sign, and the text after it. -/
def value? (s : List Char) : Option (List Char × List Char) :=
  match skipBlanks s with
  | '\'' :: s => (quoted? '\'' s).map fun (body, rest) => (unescape singleEscape? body, rest)
  | '"' :: s => (quoted? '"' s).map fun (body, rest) => (unescape doubleEscape? body, rest)
  | _ => some (unquoted (s.takeWhile (!isLineEnd ·)), s.dropWhile (!isLineEnd ·))

/-! ## Lines -/

/-- The text after the word `export` and the blanks that have to follow it. -/
def skipExport (s : List Char) : List Char :=
  match s with
  | 'e' :: 'x' :: 'p' :: 'o' :: 'r' :: 't' :: c :: rest =>
    if isInlineBlank c then skipBlanks rest else s
  | _ => s

/-- Whether a character may stand in an unquoted name. -/
def isNameChar (c : Char) : Bool := !Text.isBlank c && c != '=' && c != '#'

/-- The name that stands here, if it is no comment, and the text after it. -/
def name? : List Char → Option (Option (List Char) × List Char)
  | '#' :: s => some (none, '#' :: s)
  | '\'' :: s =>
    let name := s.takeWhile (· ≠ '\'')
    match s.dropWhile (· ≠ '\'') with
    | _ :: rest => if name = [] then none else some (some name, rest)
    | [] => none
  | s =>
    if s.takeWhile isNameChar = [] then none
    else some (some (s.takeWhile isNameChar), s.dropWhile isNameChar)

/-- The text after a comment, if one stands here. -/
def skipComment (s : List Char) : List Char :=
  match skipBlanks s with
  | '#' :: rest => rest.dropWhile (!isLineEnd ·)
  | _ => s

/-- The text after the end of the line, if nothing but blanks stands before it. -/
def lineEnd? (s : List Char) : Option (List Char) :=
  match skipBlanks s with
  | [] => some []
  | '\r' :: '\n' :: rest => some rest
  | c :: rest => if isLineEnd c then some rest else none

/-- What a line says. -/
inductive Line
  /-- A variable, with or without a value. -/
  | variable (name : String) (value : Option String)
  /-- A comment, or a line that cannot be read. -/
  | nothing

/-- The end of a line that has been read, or of one that cannot be read. -/
def finish (line : Line) (s : List Char) : Line × List Char :=
  match lineEnd? (skipComment s) with
  | some rest => (line, rest)
  | none => (.nothing, afterLine (skipComment s))

/-- The line for a name that may be that of a comment. -/
def Line.of (name : Option (List Char)) (value : Option (List Char)) : Line :=
  match name with
  | some name => .variable (String.ofList name) (value.map String.ofList)
  | none => .nothing

/-- The line that starts here, and the text after it. -/
def line (s : List Char) : Line × List Char :=
  match name? (skipExport s) with
  | none => (.nothing, afterLine (skipExport s))
  | some (name, rest) =>
    match skipBlanks rest with
    | '=' :: rest =>
      match value? rest with
      | some (value, rest) => finish (.of name (some value)) rest
      | none => (.nothing, afterLine (skipBlanks rest))
    | rest => finish (.of name none) rest

/-- The assignments of a text; the first argument bounds the number of lines. -/
def assignmentsFrom : Nat → List Char → List (String × Option String)
  | 0, _ => []
  | fuel + 1, s =>
    match s.dropWhile Text.isBlank with
    | [] => []
    | s =>
      match line s with
      | (.variable name value, rest) => (name, value) :: assignmentsFrom fuel rest
      | (.nothing, rest) => assignmentsFrom fuel rest

/-- The assignments of a text, in order. Every line takes at least one character. -/
def assignments (s : List Char) : List (String × Option String) :=
  assignmentsFrom (s.length + 1) s

/-! ## References -/

/-- A reference to a variable, with the text that stands in for a variable that is not set. -/
structure Reference where
  name : List Char
  fallback : List Char

/-- The reference that starts here, and the text after it. -/
def reference? : List Char → Option (Reference × List Char)
  | '$' :: '{' :: s =>
    let name := s.takeWhile fun c => c ≠ '}' ∧ c ≠ ':'
    match s.dropWhile fun c => c ≠ '}' ∧ c ≠ ':' with
    | '}' :: rest => some (⟨name, []⟩, rest)
    | ':' :: '-' :: s =>
      match s.dropWhile (· ≠ '}') with
      | '}' :: rest => some (⟨name, s.takeWhile (· ≠ '}')⟩, rest)
      | _ => none
    | _ => none
  | _ => none

theorem length_of_reference? {s rest : List Char} {r : Reference}
    (h : reference? s = some (r, rest)) : rest.length < s.length := by
  unfold reference? at h
  split at h
  · next s =>
    have hs := (List.dropWhile_suffix (l := s) fun c => c ≠ '}' ∧ c ≠ ':').length_le
    dsimp only at h
    split at h
    · next e =>
      simp only [e, List.length_cons, Option.some.injEq, Prod.mk.injEq] at hs h
      obtain ⟨-, rfl⟩ := h
      simp only [List.length_cons]
      omega
    · next s' e =>
      have hs' := (List.dropWhile_suffix (l := s') (· ≠ '}')).length_le
      split at h
      · next e' =>
        simp only [e, e', List.length_cons, Option.some.injEq, Prod.mk.injEq] at hs hs' h
        obtain ⟨-, rfl⟩ := h
        simp only [List.length_cons]
        omega
      · simp at h
    · simp at h
  · simp at h

/-- The text with its references replaced; `known` gives the values of the variables that are
set. -/
def expand (known : String → Option String) (s : List Char) : List Char :=
  match s with
  | [] => []
  | c :: tail =>
    match h : reference? (c :: tail) with
    | some (r, rest) =>
      have := length_of_reference? h
      (match known (String.ofList r.name) with
        | some value => value.toList
        | none => r.fallback) ++ expand known rest
    | none => c :: expand known tail
termination_by s.length
decreasing_by
  · assumption
  · simp

/-- The value of a variable for those that refer to it: that of the file so far, or else that of the
environment. A variable without a value is empty. -/
def known? (environment : Variables String) (vars : Variables (Option String)) (name : String) :
    Option String :=
  match vars.lookup name with
  | some value => some (value.getD "")
  | none => environment.lookup name

/-- The variables after one more assignment. -/
def assign (environment : Variables String) (vars : Variables (Option String))
    (a : String × Option String) : Variables (Option String) :=
  let expanded := a.2.map fun value =>
    String.ofList (expand (known? environment vars) value.toList)
  Variables.put a.1 expanded vars

/-- The text without the byte order mark that it may start with. A second one belongs to the
text. -/
def skipByteOrderMark : List Char → List Char
  | '\uFEFF' :: s => s
  | s => s

/-- The variables of a text, read in an environment. -/
def parse (environment : Variables String) (s : List Char) : Variables (Option String) :=
  (assignments (skipByteOrderMark s)).foldl (assign environment) []

end ExportTrail.DotEnv
