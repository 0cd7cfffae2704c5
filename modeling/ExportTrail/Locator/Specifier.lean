import ExportTrail.Text.Split

/-!
# Specifiers

A specifier names a module in an import or export statement. `confine` makes it relative to the
configured root: steps to a parent directory are dropped, and what remains starts with `./`.
-/

namespace ExportTrail.Specifier

/-- The text without its occurrences of `../`, found from left to right without overlap. -/
def dropParents : List Char → List Char
  | [] => []
  | '.' :: '.' :: '/' :: s => dropParents s
  | c :: s => c :: dropParents s

/-- The text with `./` in front, unless it is there. -/
def anchorHere (s : List Char) : List Char :=
  match s with
  | '.' :: '/' :: _ => s
  | _ => '.' :: '/' :: s

/-- The specifier, made relative to the root. -/
def confineChars (s : List Char) : List Char := anchorHere (dropParents s)

/-- The specifier, made relative to the root. -/
def confine (specifier : String) : String := String.ofList (confineChars specifier.toList)

end ExportTrail.Specifier
