import ExportTrail.Text.Split

/-!
# Complaints about given values

Options and settings are checked member by member. A `Complaint` says what is wrong with the value
at one place; all complaints of a check are reported together.
-/

namespace ExportTrail

/-- What is wrong with a value. -/
inductive Complaint.Cause
  /-- A rule of the member is broken; the text says which. -/
  | rule (text : String)
  | notList
  | notText
  | notInteger
  /-- A text that writes no integer. -/
  | notNumeral
  /-- An integer that is too large for the way it is given. -/
  | tooLarge
  /-- A number with a fraction. -/
  | hasFraction
  /-- A number that is infinite or undefined. -/
  | notFinite
  /-- A number below the least one allowed. -/
  | tooSmall
  | notPath
  /-- The member cannot be changed. -/
  | frozen
  deriving DecidableEq, Repr

/-- What is wrong with the value at one place. -/
structure Complaint where
  cause : Complaint.Cause
  /-- The names that lead to the value, the member first. -/
  place : List String
  deriving DecidableEq, Repr

namespace Complaint

/-- The name of a cause. -/
def Cause.name : Cause → String
  | .rule _ => "value_error"
  | .notList => "list_type"
  | .notText => "string_type"
  | .notInteger => "int_type"
  | .notNumeral => "int_parsing"
  | .tooLarge => "int_parsing_size"
  | .hasFraction => "int_from_float"
  | .notFinite => "finite_number"
  | .tooSmall => "greater_than_equal"
  | .notPath => "path_type"
  | .frozen => "frozen_instance"

/-- The words after which a rule lists what it allows. -/
def listingWords : String := " Must be one of"

/-- The text of a rule without the list of what it allows. -/
def withoutListing (rule : String) : String :=
  String.ofList (Text.before listingWords.toList rule.toList)

/-- The wording of one complaint. -/
def message (c : Complaint) : String :=
  let what := c.cause.name ++ " at " ++ String.intercalate "." c.place
  match c.cause with
  | .rule text => what ++ ": " ++ withoutListing text
  | _ => what

/-- The wording of all complaints of a check. -/
def messages (cs : List Complaint) : String :=
  String.intercalate "; " (cs.map message)

end Complaint

end ExportTrail
