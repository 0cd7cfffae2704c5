import ExportTrail.Proofs.Locator.Faults
import ExportTrail.Proofs.Search.Met

/-!
# What makes a search fail

A search fails either with the failure of the module that it has entered last, or because the module
behind a statement that it follows cannot be located (`failures_have_a_cause`). The latter takes a
root without a canonical path or an obstacle below it. The text of a specifier may be an obstacle,
so that a search can fail before it has loaded any module (`resolve_fails_unloaded`).
-/

namespace ExportTrail.Search

open Locator (Unlocatable)

variable {r : Resolver} {ws : Workspace}

/-- Whether a search has failed in loading the module that it added to the visited ones last. -/
def FailedLoad (e : Failure) (p : Progress) : Prop :=
  ∃ m acts visited, p.acts = acts ++ [.mark m, .load m (.error e)] ∧ p.visited = m :: visited

/-- Whether a search cannot locate the module behind a statement that it can follow. -/
def FailedLocating (r : Resolver) (ws : Workspace) (given : Cursor → Prop) (e : Failure)
    (p : Progress) : Prop :=
  ∃ edge source, Met given p.acts edge ∧ source? edge = some source ∧
    Unlocatable r.locator ws source edge.options e

/-- A run that fails has failed in its last turn, in locating a module or in loading it. -/
theorem run_error {given : Cursor → Prop} {first : Config} (met : AllMet given first) {e : Failure}
    {p : Progress} (h : run r ws first = (.error e, p)) :
    FailedLoad e p ∨ FailedLocating r ws given e p := by
  obtain ⟨last, reaches, done⟩ := run_ends r ws first
  rw [h] at done
  obtain ⟨edge, name, below, top, fails⟩ := step_done_error r ws done
  have asked : Met given last.progress.acts edge :=
    met.reaches reaches (.request edge name) (by rw [top]; exact List.mem_cons_self)
  have entry : Entry r ws edge last.progress (.error e, p) := fails ▸ enter_entry edge last.progress
  generalize outcome : (Except.error e : Outcome) = outcome at entry
  cases entry with
  | idle events => cases outcome
  | lost events misleads =>
    cases outcome
    obtain ⟨source, sourced, lost⟩ := misleads
    exact .inr ⟨edge, source, asked, sourced, Locator.locateFor_error lost⟩
  | @entered m events leads fresh =>
    cases loads : (ws.load last.progress.serial m edge.options).outcome with
    | ok program =>
      rw [loads] at outcome
      cases outcome
    | error e' =>
      rw [loads] at outcome
      cases outcome
      refine .inl ⟨m, last.progress.acts, last.progress.visited, ?_, rfl⟩
      rw [Progress.acts_attempt, loads, Progress.acts_mark, Progress.acts_record, List.append_assoc]
      rfl

/-- **Every failure has a cause in a module or in what locates it.** A specifier is located in a
source with given options, or denotes nothing there, unless the root has no canonical path or there
is an obstacle below it: a path that is too long, an extension that cannot be appended or a manifest
that is nested too deeply. A query that fails has failed in loading the module that was added to the
visited ones last, or for such a cause at one of the statements that it can follow. -/
theorem failures_have_a_cause (r : Resolver) (ws : Workspace) :
    (∀ specifier o,
      (∃ found, (r.locator.locateFor ws specifier o).outcome = .ok found) ∨
        ∃ e, (r.locator.locateFor ws specifier o).outcome = .error e ∧
          Unlocatable r.locator ws specifier o e) ∧
    ∀ (q : Session.Query) before serial e p, q.run r ws (.start before serial) = (.error e, p) →
      FailedLoad e p ∨ FailedLocating r ws q.Begins e p := by
  constructor
  · intro specifier o
    cases located : (r.locator.locateFor ws specifier o).outcome with
    | ok found => exact .inl ⟨found, rfl⟩
    | error e => exact .inr ⟨e, rfl, Locator.locateFor_error located⟩
  · intro q before serial e p h
    cases starts : q.frame? with
    | none =>
      rw [q.run_of_frame?_none r ws _ starts] at h
      cases h
    | some frame =>
      rw [q.run_of_frame? r ws _ starts] at h
      exact run_error (Session.Query.allMet_frame? _ starts) h

/-- A search fails at once if the module behind its edge cannot be located. -/
theorem resolve_of_misleads {edge : Cursor} {e : Failure} (misleads : Misleads r ws edge e)
    (name : String) (p : Progress) :
    ∃ events, r.resolve ws edge name p = (.error e, p.record events) := by
  obtain ⟨source, sourced, lost⟩ := misleads
  have entering : enter r ws edge p =
      (.error e, p.record (r.locator.locateFor ws source edge.options).events) := by
    rw [enter, sourced]
    dsimp only
    rw [lost]
  exact ⟨_, by rw [resolve_eq, Recursive.resolve, Recursive.request_eq, Recursive.visit, entering]⟩

/-! ## A specifier in the way -/

namespace Stuck

open TwoModules (leaf branch)

/-- A wildcard with the source `.`. -/
def wildcardTree : Tree :=
  branch "export_statement" 0 15
    [leaf "export" false 0 6, leaf "*" false 6 7, leaf "from" false 7 11,
      branch "string" 11 14
        [leaf "'" false 11 12, leaf "string_fragment" true 12 13, leaf "'" false 13 14] [],
      leaf ";" false 14 15]
    [("source", 3)]

def text : List UInt8 := Text.Utf8.encode "export*from'.';".toList

def workspace : Workspace where
  world := .empty
  cwd := []
  grammars _ _ := ⟨branch "program" 0 15 [wildcardTree] [], false⟩

/-- The wildcard in a module with a given root. -/
def edge (root : Path) : Cursor :=
  let program := Node.root 0 text (branch "program" 0 15 [wildcardTree] [])
  .via (.top program (some ⟨some ⟨.root, ["m.js"]⟩, some root, none, []⟩))
    (program.childAt 0 wildcardTree)

/-- The resolver without any configuration. -/
def plain : Resolver := ⟨Locator.default, Resolver.defaultMaxDepth⟩

theorem misleads : Misleads plain workspace (edge ⟨.root, []⟩) (.emptyName ⟨.root, []⟩) :=
  ⟨".", by cbv, by cbv⟩

end Stuck

open Stuck in
/-- A search that fails, and what it has failed in. -/
theorem failures_have_a_cause_stuck :
    ∃ p, (Session.Query.resolve (edge ⟨.root, []⟩) "x").run plain workspace (.start [] 0) =
        (.error (.emptyName ⟨.root, []⟩), p) ∧
      (FailedLoad (.emptyName ⟨.root, []⟩) p ∨
        FailedLocating plain workspace (Session.Query.Begins (.resolve (edge ⟨.root, []⟩) "x"))
          (.emptyName ⟨.root, []⟩) p) := by
  obtain ⟨events, fails⟩ := resolve_of_misleads misleads "x" (.start [] 0)
  exact ⟨_, fails, (failures_have_a_cause plain workspace).2 (.resolve _ "x") [] 0 _ _ fails⟩

open Stuck in
/-- The specifier `.` makes a search fail in a source whose root is the root of all files: there is
no name there to append an extension to. No module has been entered, and none loaded. -/
theorem resolve_fails_unloaded :
    ∃ e p, plain.resolve workspace (edge ⟨.root, []⟩) "x" (.start [] 0) = (.error e, p) ∧
      p.visited = [] ∧ p.acts = [] := by
  obtain ⟨events, fails⟩ := resolve_of_misleads misleads "x" (.start [] 0)
  exact ⟨_, _, fails, rfl, rfl⟩

end ExportTrail.Search
