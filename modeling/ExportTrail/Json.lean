import ExportTrail.Text.Hex
import ExportTrail.Text.Numeral
import ExportTrail.Value

/-!
# JSON documents

A reader for JSON texts. A number with a fraction or an exponent is rounded to the nearest binary
one, any other is an integer. Beyond the grammar of JSON the words `NaN`, `Infinity` and `-Infinity`
are read as numbers. An integer of more than 4300 digits is refused, and so is a document whose
arrays and objects are nested too deeply.
-/

namespace ExportTrail

/-- A JSON document. A string or member name is absent when it holds half of a surrogate pair, which
no text can. -/
inductive Json
  | null
  | bool (b : Bool)
  | number (n : Number)
  | string (text : Option String)
  | array (items : List Json)
  | object (members : List (Option String × Json))

namespace Json

/-- Whether white space may stand here between two tokens. -/
def isSpace (c : Char) : Bool :=
  c = ' ' || c = '\t' || c = '\n' || c = '\r'

/-- The text after its leading white space. -/
def skip (s : List Char) : List Char := s.dropWhile isSpace

/-! ## Strings -/

/-- The code point that a one-letter escape stands for. -/
def escape? : Char → Option Nat
  | '"' => some 0x22
  | '\\' => some 0x5C
  | '/' => some 0x2F
  | 'b' => some 0x08
  | 'f' => some 0x0C
  | 'n' => some 0x0A
  | 'r' => some 0x0D
  | 't' => some 0x09
  | _ => none

/-- The number that four hexadecimal digits write. -/
def hexQuad? (a b c d : Char) : Option Nat := do
  let a ← Text.hexValue? a
  let b ← Text.hexValue? b
  let c ← Text.hexValue? c
  let d ← Text.hexValue? d
  return ((a * 16 + b) * 16 + c) * 16 + d

/-- The code units of a string up to its closing quote, and the text after that quote. Control
characters have to be escaped. -/
def stringBody : List Char → Option (List Nat × List Char)
  | [] => none
  | '"' :: s => some ([], s)
  | '\\' :: 'u' :: a :: b :: c :: d :: s =>
    match hexQuad? a b c d, stringBody s with
    | some u, some (us, rest) => some (u :: us, rest)
    | _, _ => none
  | '\\' :: e :: s =>
    match escape? e, stringBody s with
    | some u, some (us, rest) => some (u :: us, rest)
    | _, _ => none
  | c :: s =>
    if c.toNat < 0x20 ∨ c = '\\' then none
    else match stringBody s with
      | some (us, rest) => some (c.toNat :: us, rest)
      | none => none

/-- Whether a code unit is the first half of a surrogate pair. -/
def isHigh (u : Nat) : Bool := 0xD800 ≤ u && u < 0xDC00

/-- Whether a code unit is the second half of a surrogate pair. -/
def isLow (u : Nat) : Bool := 0xDC00 ≤ u && u < 0xE000

/-- The characters of a list of code units, unless half of a surrogate pair stands alone in it. -/
def ofUnits? : List Nat → Option (List Char)
  | [] => some []
  | [u] => if isHigh u || isLow u then none else some [Char.ofNat u]
  | u :: v :: us =>
    if isHigh u && isLow v then
      (ofUnits? us).map (Char.ofNat (0x10000 + (u - 0xD800) * 0x400 + (v - 0xDC00)) :: ·)
    else if isHigh u || isLow u then none
    else (ofUnits? (v :: us)).map (Char.ofNat u :: ·)

/-- The text of a list of code units. -/
def textOfUnits (us : List Nat) : Option String :=
  (ofUnits? us).map String.ofList

/-! ## Numbers -/

/-- The digits of the whole part of a number, and the text after them. A zero in front is the only
digit. -/
def wholeDigits (s : List Char) : List Char × List Char :=
  match s with
  | '0' :: rest => (['0'], rest)
  | _ => s.span Char.isDigit

/-- The digits of a fraction and the text after them, where a fraction stands here. -/
def fraction (s : List Char) : List Char × List Char :=
  match s with
  | '.' :: d :: rest => if d.isDigit then (d :: rest).span Char.isDigit else ([], s)
  | _ => ([], s)

/-- The number that the digits of an exponent write, and the text after them. -/
def exponentDigits? (s : List Char) : Option (Nat × List Char) :=
  match s.span Char.isDigit with
  | ([], _) => none
  | (digits, rest) => some (Text.ofDigits digits, rest)

/-- An exponent and the text after it, where one stands here. -/
def exponent? : List Char → Option (Int × List Char)
  | e :: s =>
    if e = 'e' ∨ e = 'E' then
      match s with
      | '+' :: s => (exponentDigits? s).map fun (n, rest) => ((n : Int), rest)
      | '-' :: s => (exponentDigits? s).map fun (n, rest) => (-(n : Int), rest)
      | s => (exponentDigits? s).map fun (n, rest) => ((n : Int), rest)
    else none
  | [] => none

/-- The most digits that an integer may have. -/
def maxIntegerDigits : Nat := 4300

/-- The number that stands here after its sign, and the text after it: digits without a leading
zero, then perhaps a fraction, then perhaps an exponent. -/
def unsigned? (negative : Bool) (s : List Char) : Option (Number × List Char) :=
  let (whole, afterWhole) := wholeDigits s
  let (places, afterFraction) := fraction afterWhole
  if whole = [] then none
  else
    match places, exponent? afterFraction with
    | [], none =>
      if maxIntegerDigits < whole.length then none
      else
        let n : Int := Text.ofDigits whole
        some (.integer (if negative then -n else n), afterFraction)
    | places, exponent =>
      let (power, rest) := exponent.getD (0, afterFraction)
      some (.ofDecimal negative (Text.ofDigits (whole ++ places)) (power - places.length), rest)

/-! ## Documents -/

/-- What holds other documents. -/
inductive Container
  | array
  | object
  deriving DecidableEq, Repr

/-- Why a text cannot be read as a document. -/
inductive Fault
  | malformed
  /-- A container stands within too many others. -/
  | tooDeep (innermost : Container)
  deriving DecidableEq, Repr

/-- The most containers within one another. -/
def maxLevels : Nat := 988

/-- An outcome of reading, or the fault that there is none. -/
def orMalformed {α : Type} : Option α → Except Fault α
  | some a => .ok a
  | none => .error .malformed

/-- A word or number that stands for a document. -/
def word? : List Char → Option (Json × List Char)
  | 'n' :: 'u' :: 'l' :: 'l' :: s => some (.null, s)
  | 't' :: 'r' :: 'u' :: 'e' :: s => some (.bool true, s)
  | 'f' :: 'a' :: 'l' :: 's' :: 'e' :: s => some (.bool false, s)
  | 'N' :: 'a' :: 'N' :: s => some (.number .undefined, s)
  | 'I' :: 'n' :: 'f' :: 'i' :: 'n' :: 'i' :: 't' :: 'y' :: s => some (.number (.infinite false), s)
  | '-' :: 'I' :: 'n' :: 'f' :: 'i' :: 'n' :: 'i' :: 't' :: 'y' :: s =>
    some (.number (.infinite true), s)
  | '-' :: s => (unsigned? true s).map fun (n, rest) => (.number n, rest)
  | s => (unsigned? false s).map fun (n, rest) => (.number n, rest)

mutual

/-- Reads one document that starts here. The first argument bounds the length of the reading, the
second the containers that may be entered. -/
def value : Nat → Nat → List Char → Except Fault (Json × List Char)
  | 0, _, _ => .error .malformed
  | fuel + 1, levels, s =>
    match s with
    | '"' :: s =>
      orMalformed ((stringBody s).map fun (us, rest) => (.string (textOfUnits us), rest))
    | '[' :: s =>
      match levels, skip s with
      | 0, _ => .error (.tooDeep .array)
      | _ + 1, ']' :: rest => .ok (.array [], rest)
      | levels + 1, s => (elements fuel levels s).map fun (vs, rest) => (.array vs, rest)
    | '{' :: s =>
      match levels, skip s with
      | 0, _ => .error (.tooDeep .object)
      | _ + 1, '}' :: rest => .ok (.object [], rest)
      | levels + 1, s => (members fuel levels s).map fun (ms, rest) => (.object ms, rest)
    | s => orMalformed (word? s)

/-- Reads the items of an array up to its closing bracket. -/
def elements : Nat → Nat → List Char → Except Fault (List Json × List Char)
  | 0, _, _ => .error .malformed
  | fuel + 1, levels, s =>
    match value fuel levels s with
    | .error e => .error e
    | .ok (v, rest) =>
      match skip rest with
      | ']' :: rest => .ok ([v], rest)
      | ',' :: rest => (elements fuel levels (skip rest)).map fun (vs, rest) => (v :: vs, rest)
      | _ => .error .malformed

/-- Reads the members of an object up to its closing brace. -/
def members : Nat → Nat → List Char → Except Fault (List (Option String × Json) × List Char)
  | 0, _, _ => .error .malformed
  | fuel + 1, levels, s =>
    match s with
    | '"' :: s =>
      match stringBody s with
      | none => .error .malformed
      | some (us, rest) =>
        match skip rest with
        | ':' :: rest =>
          match value fuel levels (skip rest) with
          | .error e => .error e
          | .ok (v, rest) =>
            match skip rest with
            | '}' :: rest => .ok ([(textOfUnits us, v)], rest)
            | ',' :: rest =>
              (members fuel levels (skip rest)).map fun (ms, rest) =>
                ((textOfUnits us, v) :: ms, rest)
            | _ => .error .malformed
        | _ => .error .malformed
    | _ => .error .malformed

end

/-- The document that a text holds, white space around it allowed. Each call of the readers takes
at least one character or is followed by one that does, so the bound on their length is never
met. -/
def parse (s : List Char) : Except Fault Json :=
  match value (2 * s.length + 2) maxLevels (skip s) with
  | .error e => .error e
  | .ok (v, rest) => if skip rest = [] then .ok v else .error .malformed

/-- The member of that name; of several, the last. -/
def member? (name : String) : Json → Option Json
  | .object ms => ms.reverse.lookup (some name)
  | _ => none

/-- The text of a string. -/
def text? : Json → Option String
  | .string text => text
  | _ => none

end Json

end ExportTrail
