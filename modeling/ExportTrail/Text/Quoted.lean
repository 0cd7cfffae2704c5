import ExportTrail.Text.Hex
import ExportTrail.Text.Printable

/-!
# Quoted text

A text is quoted for a message: between single quotes, or between double quotes if it holds a
single quote and no double one. The quote itself, the backslash and every unprintable character are
escaped, so that the quoted form stays on one line.
-/

namespace ExportTrail.Text

/-- The quote that a text is put between. -/
def quoteFor (s : List Char) : Char :=
  if '\'' ∈ s ∧ '"' ∉ s then '"' else '\''

/-- How a character is written between quotes `q`. -/
def quoteChar (q c : Char) : List Char :=
  let n := c.toNat
  if c = q ∨ c = '\\' then ['\\', c]
  else if c = '\n' then ['\\', 'n']
  else if c = '\r' then ['\\', 'r']
  else if c = '\t' then ['\\', 't']
  else if isPrintable c then [c]
  else if n < 0x100 then '\\' :: 'x' :: hex 2 n
  else if n < 0x10000 then '\\' :: 'u' :: hex 4 n
  else '\\' :: 'U' :: hex 8 n

/-- The quoted form of a text. -/
def quoteChars (s : List Char) : List Char :=
  quoteFor s :: s.flatMap (quoteChar (quoteFor s)) ++ [quoteFor s]

/-- The quoted form of a `String`. -/
def quote (s : String) : String :=
  String.ofList (quoteChars s.toList)

end ExportTrail.Text
