import ExportTrail.Search.Recursive
import Mathlib.Data.List.Basic

/-!
# The stack of frames and the recursion

The machine that keeps the modules being searched on a stack of frames, and the recursion that goes
through the export statements of a module and calls itself for other modules, are one search: they
give the same outcome, visit and load the same modules in the same order and record the same events
(`stack_eq_recursion`).

* `statement_eq` and `module_eq` read the recursion off the agenda of a module: the work on a
  statement is the work on the items it contributes.
* `run_request` says what a request on top of a stack leads to: the frames below get the answer that
  the recursion gives. The place of a module on its chain is the height of its frame.
* `request_induction` is the induction that the recursion is made for: from the answers given at one
  place of the chain to those given at the place before.
-/

namespace ExportTrail.Search

namespace Recursive

/-! ## The work on an agenda -/

section forAll

variable {α β : Type} {work : α → Option Cursor → Progress → Outcome × Progress}
  {work' : β → Option Cursor → Progress → Outcome × Progress}

@[simp] theorem forAll_nil (result : Option Cursor) (p : Progress) :
    forAll work [] result p = (.ok result, p) := rfl

theorem forAll_singleton (a : α) (result : Option Cursor) (p : Progress) :
    forAll work [a] result p = work a result p := by
  rw [forAll]
  split
  · next h => rw [h]
  · next h => rw [h, forAll_nil]

theorem forAll_append (as bs : List α) (result : Option Cursor) (p : Progress) :
    forAll work (as ++ bs) result p =
      match forAll work as result p with
      | (.error e, p) => (.error e, p)
      | (.ok result, p) => forAll work bs result p := by
  induction as generalizing result p with
  | nil => rfl
  | cons a as ih =>
    rw [List.cons_append, forAll, forAll]
    rcases work a result p with ⟨e | answer, q⟩
    · rfl
    · exact ih answer q

/-- Work that is made up of smaller pieces of work. -/
theorem forAll_flatMap {pieces : α → List β}
    (h : ∀ a result p, work a result p = forAll work' (pieces a) result p) (as : List α)
    (result : Option Cursor) (p : Progress) :
    forAll work as result p = forAll work' (as.flatMap pieces) result p := by
  induction as generalizing result p with
  | nil => rfl
  | cons a as ih =>
    rw [List.flatMap_cons, forAll_append, ← h, forAll]
    rcases work a result p with ⟨e | answer, q⟩
    · rfl
    · exact ih answer q

end forAll

/-- The work on one item of the agenda of a module. -/
def perform (ask : Ask) : Export.Item → Option Cursor → Progress → Outcome × Progress
  | .settle result, _, p => (.ok result, p)
  | .ask edge name clears, result, p =>
    match ask edge name p with
    | (.error e, p) => (.error e, p)
    | (.ok answer, p) => (.ok (absorb clears result answer), p)

/-- Settling a number of results one after the other leaves the last one. -/
theorem forAll_settle (ask : Ask) (cs : List Cursor) (result : Option Cursor) (p : Progress) :
    forAll (perform ask) (cs.map fun c => .settle (some c)) result p =
      (.ok (cs.getLast?.or result), p) := by
  induction cs generalizing result with
  | nil => rfl
  | cons c cs ih =>
    rw [List.map_cons, forAll, perform]
    dsimp only
    rw [ih, List.getLast?_cons]
    cases cs.getLast? <;> rfl

theorem specifiers_eq (ask : Ask) (s : Cursor) (name : String) (result : Option Cursor)
    (p : Progress) :
    forAll (specifier ask s name) (Export.specifiers s) result p =
      forAll (perform ask) (Export.specifierItems s name) result p := by
  rw [Export.specifierItems, List.filterMap_eq_flatMap_toList]
  apply forAll_flatMap
  rintro ⟨exported, inner⟩ result p
  rw [specifier]
  by_cases named : exported = name
  · by_cases sourced : (s.field? "source").isSome
    · simp only [named, sourced, if_true, Option.toList_some, forAll_singleton, perform]
      rcases ask s inner.bindingName p with ⟨e | answer, q⟩ <;> rfl
    · simp [named, sourced, forAll_singleton, perform]
  · simp [named]

/-- The work on a statement is the work on the items that it contributes. -/
theorem statement_eq (ask : Ask) (name : String) (s : Cursor) (result : Option Cursor)
    (p : Progress) :
    statement ask name s result p = forAll (perform ask) (Export.items name s) result p := by
  unfold statement Export.items
  cases Export.form? s with
  | none => rfl
  | some form =>
    cases form with
    | declaration =>
      cases Export.matchDeclaration s name with
      | none => rfl
      | some found => rfl
    | specifiers => exact specifiers_eq ask s name result p
    | default => by_cases named : name = "default" <;> simp [named, forAll_singleton, perform]
    | wildcard =>
      dsimp only
      rw [forAll_singleton, perform]
      rcases ask s name p with ⟨e | _ | answer, q⟩ <;> rfl
    | namespaced => exact (forAll_settle ask _ result p).symm

/-- The search of a module is the work on its agenda. -/
theorem module_eq (ask : Ask) (program : Cursor) (name : String) (p : Progress) :
    module ask program name p = forAll (perform ask) (Export.agenda program name) none p :=
  forAll_flatMap (statement_eq ask name) _ _ _

/-! ## Induction along the chain -/

variable {r : Resolver} {ws : Workspace}

theorem request_eq (depth : Nat) : request r ws depth = visit r ws (asker r ws depth) := by
  rw [request, asker]

/-- What holds of refusals, and of a module whose requests it holds of, holds of all requests. -/
theorem request_induction {P : Nat → Ask → Prop}
    (refused : ∀ depth : Nat, r.maxDepth ≤ depth → P (depth + 1) (refuse r))
    (visited : ∀ (depth : Nat) (ask : Ask), (depth : Int) ≤ max 1 r.maxDepth → P (depth + 1) ask →
      P depth (visit r ws ask))
    (depth : Nat) (le : (depth : Int) ≤ max 1 r.maxDepth) :
    P depth (request r ws depth) := by
  rw [request_eq, asker]
  apply visited depth _ le
  split
  · next lt => exact request_induction refused visited (depth + 1) (by omega)
  · next ge => exact refused depth (by omega)
termination_by (r.maxDepth - depth).toNat

/-- The same for the requests that a module makes. -/
theorem asker_induction {P : Nat → Ask → Prop}
    (refused : ∀ depth : Nat, r.maxDepth ≤ depth → P (depth + 1) (refuse r))
    (visited : ∀ (depth : Nat) (ask : Ask), (depth : Int) ≤ max 1 r.maxDepth → P (depth + 1) ask →
      P depth (visit r ws ask))
    (depth : Nat) : P (depth + 1) (asker r ws depth) := by
  rw [asker]
  split
  · next lt => exact request_induction refused visited (depth + 1) (by omega)
  · next ge => exact refused depth (by omega)

end Recursive

/-! ## The machine follows the recursion -/

open Recursive

variable (r : Resolver) (ws : Workspace)

/-- What frames make of the outcome of the frame above them. -/
def continueWith (below : List Frame) : Outcome × Progress → Outcome × Progress
  | (.error e, p) => (.error e, p)
  | (.ok answer, p) => run r ws ⟨below, answer, p⟩

/-- What comes of a turn in the end. -/
def Next.result : Next → Outcome × Progress
  | .done outcome p => (outcome, p)
  | .more c => run r ws c

theorem run_eq (c : Config) : run r ws c = (step r ws c).result r ws := by
  rw [run]
  split
  · next h => rw [h]; rfl
  · next h => rw [h]; rfl

theorem run_nil (answer : Option Cursor) (p : Progress) :
    run r ws ⟨[], answer, p⟩ = (.ok answer, p) := by
  rw [run_eq]; rfl

theorem run_cons (frame : Frame) (below : List Frame) (answer : Option Cursor) (p : Progress) :
    run r ws ⟨frame :: below, answer, p⟩ =
      (advance r below (resume r ws frame answer p)).result r ws := by
  rw [run_eq]; rfl

/-- With the empty stack below, the outcome stands. -/
theorem continueWith_nil (found : Outcome × Progress) : continueWith r ws [] found = found := by
  rcases found with ⟨e | answer, p⟩
  · rfl
  · exact run_nil r ws answer p

/-- If the machine answers requests as the recursion does, it works on an agenda as the recursion
does. -/
theorem result_proceed (below : List Frame) (ask : Ask) (program : Cursor)
    (answers : ∀ edge name waiting p,
      (advance r below (.asks edge name waiting, p)).result r ws =
        continueWith r ws (waiting :: below) (ask edge name p))
    (items : List Export.Item) (result : Option Cursor) (p : Progress) :
    (advance r below (proceed program items result, p)).result r ws =
      continueWith r ws below (forAll (perform ask) items result p) := by
  induction items generalizing result p with
  | nil => rfl
  | cons item items ih =>
    cases item with
    | settle settled => exact ih settled p
    | ask edge name clears =>
      rw [proceed, answers, forAll, perform]
      rcases ask edge name p with ⟨e | answer, q⟩
      · rfl
      -- the frame gets the answer and works on
      · exact (run_cons ..).trans (ih (absorb clears result answer) q)

/-- A request on top of other frames is answered as by the recursion. -/
theorem run_request (below : List Frame) (edge : Cursor) (name : String) (answer : Option Cursor)
    (p : Progress) :
    run r ws ⟨.request edge name :: below, answer, p⟩ =
      continueWith r ws below (request r ws (below.length + 1) edge name p) := by
  rw [run_cons, resume, request_eq, visit]
  rcases enter r ws edge p with ⟨e | _ | program, q⟩
  · rfl
  · rfl
  · dsimp only
    rw [module_eq]
    apply result_proceed
    intro edge' name' waiting p'
    rw [advance, asker]
    split
    · next full => rw [if_neg (by omega)]; rfl
    · next room =>
      rw [if_pos (by omega)]
      exact run_request (waiting :: below) edge' name' none p'
termination_by (r.maxDepth - (below.length + 1 : Nat)).toNat
decreasing_by simp only [List.length_cons]; omega

theorem resolve_eq (edge : Cursor) (name : String) (p : Progress) :
    r.resolve ws edge name p = Recursive.resolve r ws edge name p := by
  rw [Resolver.resolve, run_request, continueWith_nil]
  rfl

theorem findExported_eq (program : Cursor) (name : String) (p : Progress) :
    r.findExported ws program name p = Recursive.findExported r ws program name p := by
  rw [Resolver.findExported, run_cons, resume, Recursive.findExported, module_eq]
  rw [← continueWith_nil r ws (forAll ..)]
  apply result_proceed
  intro edge name waiting p
  rw [advance, asker]
  split
  · next full => rw [if_neg (by simpa using full)]; rfl
  · next room =>
    rw [if_pos (by simpa using room)]
    exact run_request r ws [waiting] edge name none p

/-- **The machine refines the recursion.** For every resolver, whatever its greatest depth, and every
workspace, a search on the stack of frames has the outcome of the recursive search, be it a node,
nothing or a failure, and it leaves the same visited modules, the same acts of entering and loading
modules and the same events. The same holds of the search of a module that is already parsed. -/
theorem stack_eq_recursion :
    (∀ edge name p, r.resolve ws edge name p = Recursive.resolve r ws edge name p) ∧
      ∀ program name p,
        r.findExported ws program name p = Recursive.findExported r ws program name p :=
  ⟨resolve_eq r ws, findExported_eq r ws⟩

end ExportTrail.Search
