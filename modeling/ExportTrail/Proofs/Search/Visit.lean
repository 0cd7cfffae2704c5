import ExportTrail.Proofs.Export.Agenda
import ExportTrail.Proofs.Search.Recursion
import Mathlib

/-!
# Visiting a module

What a recursive request can come to (`visit_visiting`), and that it never takes a module from the
visited ones (`grows_asker`). At the end is a small workspace in which a request comes to something
(`TwoModules.resolve_two_modules`).
-/

namespace ExportTrail.Search

/-- Whether a module, read with given options retargeted to it, is a given tree. The serial number of
the parse is left open. -/
def Reads (ws : Workspace) (o : Options) (module : Path) (program : Cursor) : Prop :=
  ∃ serial, (ws.load serial module o).outcome = .ok program

namespace Recursive

variable (r : Resolver) (ws : Workspace)

/-- The ways in which a request can end. -/
inductive Visiting (ask : Ask) (edge : Cursor) (name : String) (p : Progress) :
    Outcome × Progress → Prop
  /-- There is nothing to enter, or nothing new. -/
  | idle (events : List Log.Event)
    (nothing : ∀ module, Leads r ws edge module → module ∈ p.visited) :
    Visiting ask edge name p (.ok none, p.record events)
  /-- The module cannot be located. -/
  | lost {failure : Failure} (events : List Log.Event) (misleads : Misleads r ws edge failure) :
    Visiting ask edge name p (.error failure, p.record events)
  /-- The module cannot be loaded. -/
  | broken {m : Path} {failure : Failure} (events : List Log.Event) (leads : Leads r ws edge m)
    (fresh : m ∉ p.visited) (fails : (ws.load p.serial m edge.options).outcome = .error failure) :
    Visiting ask edge name p (.error failure,
      ((p.record events).mark m).attempt m (ws.load p.serial m edge.options))
  /-- The module is searched. -/
  | entered {m : Path} {program : Cursor} (events : List Log.Event) (leads : Leads r ws edge m)
    (fresh : m ∉ p.visited) (loads : (ws.load p.serial m edge.options).outcome = .ok program) :
    Visiting ask edge name p (module ask program name
      (((p.record events).mark m).attempt m (ws.load p.serial m edge.options)))

theorem visit_visiting (ask : Ask) (edge : Cursor) (name : String) (p : Progress) :
    Visiting r ws ask edge name p (visit r ws ask edge name p) := by
  have entry : Entry r ws edge p (enter r ws edge p) := enter_entry edge p
  unfold visit
  generalize enter r ws edge p = entering at entry
  cases entry with
  | idle events nothing => exact .idle events nothing
  | lost events misleads => exact .lost events misleads
  | @entered m events leads fresh =>
    cases loads : (ws.load p.serial m edge.options).outcome with
    | error e => exact .broken events leads fresh loads
    | ok program => exact .entered events leads fresh loads

variable {r ws}

/-- A module that is new and can be loaded is searched. -/
theorem visit_of_leads {edge program : Cursor} {p : Progress} {m : Path} (ask : Ask) (name : String)
    (leads : Leads r ws edge m) (fresh : m ∉ p.visited)
    (loads : (ws.load p.serial m edge.options).outcome = .ok program) :
    ∃ q, q.visited = m :: p.visited ∧ q.acts = p.acts ++ [.mark m, .load m (.ok program)] ∧
      visit r ws ask edge name p = module ask program name q := by
  have visiting := visit_visiting r ws ask edge name p
  generalize visit r ws ask edge name p = found at visiting ⊢
  cases visiting with
  | idle events nothing => exact absurd (nothing m leads) fresh
  | lost events misleads => exact absurd misleads leads.not_misleads
  | broken events leads' _ fails =>
    obtain rfl := leads.unique leads'
    cases loads.symm.trans fails
  | entered events leads' _ loads' =>
    obtain rfl := leads.unique leads'
    obtain rfl := Except.ok.inj (loads.symm.trans loads')
    refine ⟨_, rfl, ?_, rfl⟩
    rw [Progress.acts_attempt, Progress.acts_mark, Progress.acts_record, loads, List.append_assoc]
    rfl

/-- Where an edge leads nowhere, nothing is found. -/
theorem visit_of_nowhere {edge : Cursor} (ask : Ask) (name : String) (p : Progress)
    (nothing : ∀ m, ¬ Leads r ws edge m) (locates : ∀ failure, ¬ Misleads r ws edge failure) :
    ∃ events, visit r ws ask edge name p = (.ok none, p.record events) := by
  have visiting := visit_visiting r ws ask edge name p
  generalize visit r ws ask edge name p = found at visiting ⊢
  cases visiting with
  | idle events _ => exact ⟨events, rfl⟩
  | lost events misleads => exact absurd misleads (locates _)
  | broken events leads _ _ => exact absurd leads (nothing _)
  | entered events leads _ _ => exact absurd leads (nothing _)

/-- A module that was visited before is not searched. -/
theorem visit_of_visited {edge : Cursor} {p : Progress} {m : Path} (ask : Ask) (name : String)
    (leads : Leads r ws edge m) (old : m ∈ p.visited) :
    ∃ events, visit r ws ask edge name p = (.ok none, p.record events) := by
  have visiting := visit_visiting r ws ask edge name p
  generalize visit r ws ask edge name p = found at visiting ⊢
  cases visiting with
  | idle events nothing => exact ⟨events, rfl⟩
  | lost events misleads => exact absurd misleads leads.not_misleads
  | broken events leads' fresh fails => exact absurd (leads.unique leads' ▸ old) fresh
  | entered events leads' fresh loads => exact absurd (leads.unique leads' ▸ old) fresh

/-! ## Growth of the visited modules -/

/-- Whether no request takes a module from the visited ones. -/
def Grows (ask : Ask) : Prop := ∀ edge name p, p.visited ⊆ (ask edge name p).2.visited

theorem grows_forAll {ask : Ask} (grows : Grows ask) (items : List Export.Item)
    (result : Option Cursor) (p : Progress) :
    p.visited ⊆ (forAll (perform ask) items result p).2.visited := by
  induction items generalizing result p with
  | nil => exact List.Subset.refl _
  | cons item items ih =>
    cases item with
    | settle settled => exact ih settled p
    | ask edge name clears =>
      have first := grows edge name p
      rw [forAll, perform]
      rcases h : ask edge name p with ⟨e | answer, q⟩
      · rwa [h] at first
      · rw [h] at first
        exact List.Subset.trans first (ih (absorb clears result answer) q)

theorem grows_module {ask : Ask} (grows : Grows ask) (program : Cursor) (name : String)
    (p : Progress) : p.visited ⊆ (module ask program name p).2.visited := by
  rw [module_eq]
  exact grows_forAll grows ..

theorem grows_visit {ask : Ask} (grows : Grows ask) : Grows (visit r ws ask) := by
  intro edge name p
  have visiting := visit_visiting r ws ask edge name p
  generalize visit r ws ask edge name p = found at visiting
  cases visiting with
  | idle events => exact List.Subset.refl _
  | lost events => exact List.Subset.refl _
  | broken events => exact List.subset_cons_self _ _
  | @entered m program events =>
    have searched := grows_module grows program name
      (((p.record events).mark m).attempt m (ws.load p.serial m edge.options))
    exact List.Subset.trans (List.subset_cons_self m p.visited) searched

theorem grows_refuse : Grows (refuse r) := fun _ _ p => List.Subset.refl p.visited

theorem grows_asker (depth : Nat) : Grows (asker r ws depth) :=
  asker_induction (P := fun _ => Grows) (fun _ _ => grows_refuse) (fun _ _ _ => grows_visit) depth

end Recursive

/-! ## Two modules

The results on searches are tried out on two modules that refer to each other: `a.js` with the text
`export*from'./b';`, and `b.js` with the text `export*from'./a';export{x}`. -/

namespace TwoModules

/-- A node without children. -/
def leaf (kind : String) (named : Bool) (start stop : Nat) : Tree :=
  ⟨kind, named, false, false, start, stop, [], []⟩

/-- A node with children. -/
def branch (kind : String) (start stop : Nat) (children : List Tree) (fields : List (String × Nat)) :
    Tree :=
  ⟨kind, true, false, false, start, stop, children, fields⟩

/-- The wildcard that either module starts with. -/
def wildcardTree : Tree :=
  branch "export_statement" 0 17
    [leaf "export" false 0 6, leaf "*" false 6 7, leaf "from" false 7 11,
      branch "string" 11 16
        [leaf "'" false 11 12, leaf "string_fragment" true 12 15, leaf "'" false 15 16] [],
      leaf ";" false 16 17]
    [("source", 3)]

/-- The clause that the second module ends with. -/
def clauseTree : Tree :=
  branch "export_statement" 17 26
    [leaf "export" false 17 23,
      branch "export_clause" 23 26
        [leaf "\x7b" false 23 24,
          branch "export_specifier" 24 25 [leaf "identifier" true 24 25] [("name", 0)],
          leaf "\x7d" false 25 26] []]
    []

def firstTree : Tree := branch "program" 0 17 [wildcardTree] []

def secondTree : Tree := branch "program" 0 26 [wildcardTree, clauseTree] []

def firstText : List UInt8 := Text.Utf8.encode "export*from'./b';".toList

def secondText : List UInt8 := Text.Utf8.encode "export*from'./a';export\x7bx\x7d".toList

/-- The file of the first module. -/
def first : Path := ⟨.root, ["a.js"]⟩

/-- The file of the second module. -/
def second : Path := ⟨.root, ["b.js"]⟩

def workspace : Workspace where
  world := ⟨[(["a.js"], .file firstText), (["b.js"], .file secondText)]⟩
  cwd := []
  grammars _ text := ⟨if text.length = 17 then firstTree else secondTree, false⟩

/-- A resolver that allows for just these two modules. -/
def resolver : Resolver := ⟨Locator.default, 2⟩

def options (m : Path) : Options := ⟨some m, some ⟨.root, []⟩, none, []⟩

def firstProgram (serial : Nat) : Cursor :=
  .top (Node.root serial firstText firstTree) (some (options first))

def secondProgram (serial : Nat) : Cursor :=
  .top (Node.root serial secondText secondTree) (some (options second))

/-- The first statement of a module. -/
def wildcard (program : Cursor) : Cursor := .via program (program.node.childAt 0 wildcardTree)

/-- The second statement of the second module. -/
def clause (program : Cursor) : Cursor := .via program (program.node.childAt 1 clauseTree)

/-- The name that the clause exports. -/
def exported (program : Cursor) : Cursor :=
  ((clause program).namedChildren.flatMap fun c => c.namedChildren.filterMap (·.field? "name")).headD
    program

variable (serial : Nat)

theorem load_first (m : Path) :
    (workspace.load serial first (options m)).outcome = .ok (firstProgram serial) := by
  cbv

theorem load_second (m : Path) :
    (workspace.load serial second (options m)).outcome = .ok (secondProgram serial) := by
  cbv

theorem leads_first : Leads resolver workspace (wildcard (firstProgram serial)) second :=
  ⟨"./b", by cbv, by cbv⟩

theorem leads_second : Leads resolver workspace (wildcard (secondProgram serial)) first :=
  ⟨"./a", by cbv, by cbv⟩

theorem statements_first :
    Export.statements (firstProgram serial) = [wildcard (firstProgram serial)] := by
  apply Export.statements_eq_namedChildren
  · cbv
  · cbv
  · intro s mem
    obtain rfl := List.mem_singleton.1 mem
    rfl

theorem statements_second :
    Export.statements (secondProgram serial) =
      [wildcard (secondProgram serial), clause (secondProgram serial)] := by
  apply Export.statements_eq_namedChildren
  · cbv
  · cbv
  · intro s mem
    rcases List.mem_cons.1 mem with rfl | mem
    · rfl
    · obtain rfl := List.mem_singleton.1 mem
      rfl

theorem agenda_first :
    Export.agenda (firstProgram serial) "x" = [.ask (wildcard (firstProgram serial)) "x" false] := by
  rw [Export.agenda, statements_first]
  rfl

theorem agenda_second :
    Export.agenda (secondProgram serial) "x" =
      [.ask (wildcard (secondProgram serial)) "x" false,
        .settle (some (exported (secondProgram serial)))] := by
  have settled : Export.items "x" (clause (secondProgram serial)) =
      [.settle (some (exported (secondProgram serial)))] := by
    cbv
  rw [Export.agenda, statements_second, List.flatMap_cons, List.flatMap_singleton, settled]
  rfl

open Recursive in
/-- The first module finds the name in the second one, if that is not visited. -/
theorem module_first {p : Progress} (fresh : second ∉ p.visited) :
    ∃ found p', module (asker resolver workspace 1) (firstProgram serial) "x" p =
      (.ok (some found), p') := by
  have inner : asker resolver workspace 1 = visit resolver workspace (refuse resolver) := by
    rw [asker, if_pos (by decide), request_eq, asker, if_neg (by decide)]
  obtain ⟨q, -, -, eq⟩ := visit_of_leads (refuse resolver) "x" (leads_first serial) fresh
    (load_second p.serial first)
  refine ⟨exported (secondProgram p.serial), q.record [.tooDeep 2 "x"], ?_⟩
  rw [inner, module_eq, agenda_first, forAll_singleton, perform, eq, module_eq, agenda_second]
  rfl

/-- A search that starts at the second module comes back to it, and finds the name there. -/
theorem resolve_two_modules :
    ∃ found p', resolver.resolve workspace (wildcard (secondProgram serial)) "x"
      (.start [] serial) = (.ok (some found), p') := by
  obtain ⟨p, visited, -, eq⟩ := Recursive.visit_of_leads (p := .start [] serial)
    (Recursive.asker resolver workspace 1) "x" (leads_second serial) List.not_mem_nil
    (load_first serial second)
  have fresh : second ∉ p.visited := by
    rw [visited]
    show second ∉ [first]
    decide
  obtain ⟨found, p', eq'⟩ := module_first serial fresh
  refine ⟨found, p', ?_⟩
  rw [resolve_eq, Recursive.resolve, Recursive.request_eq, eq, eq']

/-- So does a search in the first module. -/
theorem find_two_modules :
    ∃ found p', resolver.findExported workspace (firstProgram serial) "x" (.start [] serial) =
      (.ok (some found), p') := by
  rw [findExported_eq, Recursive.findExported]
  exact module_first serial List.not_mem_nil

end TwoModules

end ExportTrail.Search
