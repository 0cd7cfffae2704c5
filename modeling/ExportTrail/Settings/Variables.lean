/-!
# Variables

Variables have a name and a value and keep the order in which they were first set. Reading a file or
an environment for a setting compares names without regard to case; of several variables whose names
differ only in case, the one that comes last counts.
-/

namespace ExportTrail

/-- Named values in the order in which the names were first set. -/
abbrev Variables (α : Type) := List (String × α)

namespace Variables

/-- Sets a variable. A name that is there already keeps its place. -/
def put {α : Type} (name : String) (value : α) : Variables α → Variables α
  | [] => [(name, value)]
  | (n, v) :: vars => if n = name then (n, value) :: vars else (n, v) :: put name value vars

/-- Removes a variable. -/
def unset {α : Type} (name : String) (vars : Variables α) : Variables α :=
  vars.filter (·.1 ≠ name)

/-- Why an environment cannot hold a variable. -/
inductive Fault
  /-- The name or the value holds the character NUL. -/
  | nulCharacter
  /-- The name holds an equals sign. -/
  | illegalName
  | emptyName
  deriving DecidableEq, Repr

/-- What keeps an environment from holding a variable. -/
def fault? (name value : String) : Option Fault :=
  if name.toList.contains '\x00' || value.toList.contains '\x00' then some .nulCharacter
  else if name.toList.contains '=' then some .illegalName
  else if name = "" then some .emptyName
  else none

theorem lookup_put_self {α : Type} (name : String) (value : α) (vars : Variables α) :
    (put name value vars).lookup name = some value := by
  induction vars with
  | nil => simp [put]
  | cons a vars ih =>
    obtain ⟨n, v⟩ := a
    by_cases h : n = name
    · simp [put, h]
    · simp [put, h, List.lookup_cons, ih, beq_eq_false_iff_ne.2 (Ne.symm h)]

end Variables

end ExportTrail
