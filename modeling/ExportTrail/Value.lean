import ExportTrail.Number

/-!
# Values

Options may carry members that nothing here interprets, and settings may be given by a value of any
type. `Value` is such a value.
-/

namespace ExportTrail

/-- A value of any type. -/
inductive Value
  | null
  | bool (b : Bool)
  | number (n : Number)
  | text (s : String)
  | list (items : List Value)
  | record (members : List (String × Value))
  deriving Inhabited, Repr

namespace Value

/-- The number that a value stands for; a truth value counts as one or zero. -/
def number? : Value → Option Number
  | .bool b => some (.integer (if b then 1 else 0))
  | .number n => some n
  | _ => none

mutual

/-- Whether two values are equal: numbers by what they amount to, lists item by item, records as
sets of members. -/
def same : Value → Value → Bool
  | .null, .null => true
  | .text s, .text t => s == t
  | .list vs, .list ws => sameItems vs ws
  | .record ms, .record ns => ms.length == ns.length && sameMembers ms ns
  | .bool b, w => (number? w).any (Number.same (.integer (if b then 1 else 0)))
  | .number n, w => (number? w).any n.same
  | _, _ => false

/-- Whether two lists are equal item by item. -/
def sameItems : List Value → List Value → Bool
  | [], [] => true
  | v :: vs, w :: ws => same v w && sameItems vs ws
  | _, _ => false

/-- Whether every member of the first record is equal to that of the same name in the second. -/
def sameMembers : List (String × Value) → List (String × Value) → Bool
  | [], _ => true
  | (k, v) :: ms, ns => (match ns.lookup k with
      | some w => same v w
      | none => false) && sameMembers ms ns

end

/-- The name of a value's type. -/
def typeName : Value → String
  | .null => "NoneType"
  | .bool _ => "bool"
  | .number n => n.typeName
  | .text _ => "str"
  | .list _ => "list"
  | .record _ => "dict"

end Value

end ExportTrail
