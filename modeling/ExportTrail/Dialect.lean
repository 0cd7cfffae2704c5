import ExportTrail.Path
import ExportTrail.Text.Capital
import ExportTrail.Tree

/-!
# Dialects

The grammars that a source may be written in, each with the file suffixes that belong to it.
-/

namespace ExportTrail

/-- A grammar. -/
inductive Dialect
  | javascript
  | typescript
  | tsx
  deriving DecidableEq, Repr

namespace Dialect

/-- All dialects. -/
def all : List Dialect := [.javascript, .typescript, .tsx]

/-- The name of a dialect. -/
def name : Dialect → String
  | .javascript => "javascript"
  | .typescript => "typescript"
  | .tsx => "tsx"

/-- The suffixes of the files that are written in a dialect. -/
def suffixes : Dialect → List String
  | .javascript => [".js", ".jsx", ".mjs", ".cjs"]
  | .typescript => [".ts", ".mts", ".cts"]
  | .tsx => [".tsx"]

/-- The dialect of a name. -/
def ofName? (name : String) : Option Dialect := all.find? (·.name = name)

/-- The dialect that a suffix belongs to. -/
def ofSuffix? (suffix : String) : Option Dialect := all.find? (·.suffixes.contains suffix)

/-- The dialect that a file is written in, by its suffix in lower case. -/
def ofPath? (p : Path) : Option Dialect := ofSuffix? (Text.lower p.suffix)

/-- The dialect of a source of which nothing is known. -/
def default : Dialect := .javascript

/-- The dialect that is tried next on a source that was taken to be in the default one. -/
def fallback : Dialect := .tsx

end Dialect

/-- What every grammar makes of every source. -/
abbrev Grammars := Dialect → List UInt8 → Parse

end ExportTrail
