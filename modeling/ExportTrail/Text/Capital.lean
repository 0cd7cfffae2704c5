/-!
# Capital letters

Upper-casing as far as it can produce ASCII: the ASCII letters, and the characters outside ASCII
whose full upper case is made of ASCII letters alone (`ı`, `ſ`, `ß` and the Latin ligatures). Every
other character stands for itself, which no comparison with an ASCII word can tell from its upper
case.
-/

namespace ExportTrail.Text

/-- The full upper case of a character, where that is ASCII. -/
def upperChar (c : Char) : List Char :=
  match c.toNat with
  | 0xDF => ['S', 'S']
  | 0x131 => ['I']
  | 0x17F => ['S']
  | 0xFB00 => ['F', 'F']
  | 0xFB01 => ['F', 'I']
  | 0xFB02 => ['F', 'L']
  | 0xFB03 => ['F', 'F', 'I']
  | 0xFB04 => ['F', 'F', 'L']
  | 0xFB05 => ['S', 'T']
  | 0xFB06 => ['S', 'T']
  | _ => [c.toUpper]

/-- The text in capitals. -/
def upper (s : String) : String :=
  String.ofList (s.toList.flatMap upperChar)

/-- The text with its ASCII letters in lower case. -/
def lower (s : String) : String :=
  String.ofList (s.toList.map Char.toLower)

end ExportTrail.Text
