import ExportTrail.Text.Blank
import ExportTrail.Text.Split

/-!
# Comma-separated listings

A listing writes a list of items in one text. Items are separated by commas; the blanks around an
item do not belong to it, and an item of blanks alone is no item.
-/

namespace ExportTrail.Text

/-- The items of a listing, in order. -/
def listingChars (s : List Char) : List (List Char) :=
  ((split ',' s).map trim).filter (· ≠ [])

/-- The items of a listing given as a `String`. -/
def listing (s : String) : List String :=
  (listingChars s.toList).map String.ofList

end ExportTrail.Text
