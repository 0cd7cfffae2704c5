import ExportTrail.Text.Blank

/-!
# Integers written in decimal

`numeral` reads an integer from text. The plain form is tried first: digits without leading zeros,
and perhaps a minus in front (`plain`). A text in another form is made tidy and tried once more:
white space around it, a plus, leading zeros, zeros after a point and single underscores between
digits add nothing (`tidy?`). More than 4300 digits are refused. The refusal says so only of a text
that starts with a plain form; a text that has to be made tidy is malformed whatever is wrong with
it.
-/

namespace ExportTrail.Text

/-- Why a text gives no integer. -/
inductive NumeralFault
  /-- It writes none. -/
  | malformed
  /-- It writes one with too many digits. -/
  | tooLong
  deriving DecidableEq, Repr

/-- The most digits of a plain numeral. -/
def maxDigits : Nat := 4300

/-- The value of a digit. -/
def digitValue (c : Char) : Nat := c.toNat - '0'.toNat

/-- The number that digits write. -/
def ofDigits (digits : List Char) : Nat := digits.foldl (fun n c => 10 * n + digitValue c) 0

/-- The number written by a plain numeral without its sign. Digits in excess are noticed before
anything that follows them. -/
def magnitude (s : List Char) : Except NumeralFault Nat :=
  let digits := s.takeWhile Char.isDigit
  match digits with
  | [] => .error .malformed
  | '0' :: _ => if s = ['0'] then .ok 0 else .error .malformed
  | _ =>
    if maxDigits < digits.length then .error .tooLong
    else if s.dropWhile Char.isDigit = [] then .ok (ofDigits digits)
    else .error .malformed

/-- The integer that a plain numeral writes. -/
def plain : List Char → Except NumeralFault Int
  | '-' :: s => (magnitude s).map fun n => -(n : Int)
  | s => (magnitude s).map fun n => (n : Int)

/-! ## Tidying -/

/-- The text without a plus in front. A minus may not follow it. -/
def dropPlus? : List Char → Option (List Char)
  | '+' :: '-' :: _ => none
  | '+' :: s => some s
  | s => some s

/-- What is left when leading zeros, and underscores among them, have been dropped after the
character `last`. One character is kept in front of a point and at the end of the text. -/
def dropZerosAfter? (last : Char) : List Char → Option (List Char)
  | [] => some [last]
  | c :: s =>
    if c = '0' ∨ c = '_' then dropZerosAfter? c s
    else if c.isDigit ∨ c = '-' then some (c :: s)
    else if c = '.' then some (last :: c :: s)
    else none

/-- The text without leading zeros, if it starts with a digit. -/
def dropLeadingZeros? : List Char → Option (List Char)
  | '0' :: s => dropZerosAfter? '0' s
  | c :: s => if c.isDigit then some (c :: s) else none
  | [] => none

/-- The part before a point, when zeros and nothing else follow the point. -/
def dropZeroFraction (s : List Char) : List Char :=
  match s.dropWhile (· ≠ '.') with
  | '.' :: z :: zs => if (z :: zs).all (· = '0') then s.takeWhile (· ≠ '.') else s
  | _ => s

/-- Whether two underscores stand side by side. -/
def hasDoubleUnderscore : List Char → Bool
  | '_' :: '_' :: _ => true
  | _ :: s => hasDoubleUnderscore s
  | [] => false

/-- The text without its underscores, unless one of them stands at an end or beside another. -/
def dropUnderscores (s : List Char) : List Char :=
  if s.head? = some '_' ∨ s.getLast? = some '_' ∨ hasDoubleUnderscore s then s
  else s.filter (· ≠ '_')

/-- A text without a sign, and without what adds nothing to the number that it writes. -/
def tidyMagnitude? (s : List Char) : Option (List Char) :=
  (dropLeadingZeros? s).map fun s => dropUnderscores (dropZeroFraction s)

/-- The text without what adds nothing to the number that it writes. A minus stays in front. -/
def tidy? (s : List Char) : Option (List Char) :=
  match dropPlus? (trimBy isWhite s) with
  | some ('-' :: s) => (tidyMagnitude? s).map ('-' :: ·)
  | some s => tidyMagnitude? s
  | none => none

/-- The integer that a text writes. -/
def numeral (s : List Char) : Except NumeralFault Int :=
  match plain s with
  | .error .malformed =>
    match (tidy? s).map plain with
    | some (.ok n) => .ok n
    | _ => .error .malformed
  | outcome => outcome

end ExportTrail.Text
