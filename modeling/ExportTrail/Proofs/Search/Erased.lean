import ExportTrail.Proofs.Export.Erased
import ExportTrail.Proofs.Search.Books
import ExportTrail.Proofs.Search.Recursion

/-!
# Searches without the exports of types

`Workspace.eraseTypes` is the same workspace with what exports no value erased from every module
that is parsed without a flaw. A search there goes side by side with the search in the whole
workspace:

* modules are found at the same paths (`Locator.locateFor_congr`), and what is loaded is what was
  loaded before, erased (`load_erased`);
* `Progress.Erased` and `EndErased` relate how far two such searches are and how they end;
* `asker_erased` goes along the chain of modules: if the requests of a module are answered alike, so
  is the request for the module (`visit_erased`), because its agenda is the same.
-/

namespace ExportTrail

open Export (Erased IsExport)

/-! ## Where modules are -/

section

variable {ws ws' : Workspace} (world : ws'.world = ws.world) (cwd : ws'.cwd = ws.cwd)

include world cwd

theorem Workspace.readText_congr (p : Path) : ws'.readText p = ws.readText p := by
  rw [readText, readText, world, cwd]

namespace Locator

variable (l : Locator)

theorem firstFile_congr (ps : List (Except Failure Path)) : firstFile ws' ps = firstFile ws ps := by
  induction ps with
  | nil => rfl
  | cons probe ps ih =>
    cases probe with
    | error e => rfl
    | ok p => rw [firstFile, firstFile, world, cwd, ih]

theorem asFile_congr (p : Path) : l.asFile ws' p = l.asFile ws p :=
  firstFile_congr world cwd (l.probes p)

theorem isDirectory_congr (p : Path) : isDirectory ws' p = isDirectory ws p := by
  rw [isDirectory, isDirectory, world, cwd]

theorem mainEntry_congr (directory : Path) : mainEntry ws' directory = mainEntry ws directory := by
  unfold mainEntry readManifest
  simp only [world, cwd, Workspace.readText_congr world cwd]

theorem index_congr (directory : Path) : l.index ws' directory = l.index ws directory := by
  rw [index, index, isDirectory_congr world cwd, asFile_congr world cwd]

theorem asFileOrIndex_congr (p : Path) : l.asFileOrIndex ws' p = l.asFileOrIndex ws p := by
  rw [asFileOrIndex, asFileOrIndex, asFile_congr world cwd, index_congr world cwd]

theorem asDirectory_congr (directory : Path) :
    l.asDirectory ws' directory = l.asDirectory ws directory := by
  unfold asDirectory
  simp only [isDirectory_congr world cwd, mainEntry_congr world cwd, index_congr world cwd,
    asFileOrIndex_congr world cwd]

theorem find?_congr (specifier : String) (base : Path) :
    l.find? ws' specifier base = l.find? ws specifier base := by
  unfold find? search
  simp only [asFile_congr world cwd, asDirectory_congr world cwd]

/-- Where modules are is a matter of the files only. -/
theorem locateFor_congr (specifier : String) (o : Options) :
    l.locateFor ws' specifier o = l.locateFor ws specifier o := by
  unfold locateFor
  simp only [world, cwd, find?_congr world cwd]

end Locator

end

/-! ## Erased workspaces -/

/-- The same grammars, which erase what exports no value from the sources that they accept. -/
def Grammars.eraseTypes (grammars : Grammars) : Grammars := fun dialect source =>
  if (grammars dialect source).hasError then grammars dialect source
  else ⟨(grammars dialect source).tree.prune Export.isErased, false⟩

/-- Whether the trees of all sources that are accepted are as the grammars say, and the roots are no
exports. -/
def Grammars.Grammatical (grammars : Grammars) : Prop :=
  ∀ dialect source, (grammars dialect source).hasError = false →
    ¬ IsExport (grammars dialect source).tree.kind ∧
      (grammars dialect source).tree.Everywhere Export.Grammatical

/-- The same workspace, with what exports no value erased from its modules. -/
def Workspace.eraseTypes (ws : Workspace) : Workspace :=
  { ws with grammars := ws.grammars.eraseTypes }

@[simp] theorem Workspace.world_eraseTypes (ws : Workspace) : ws.eraseTypes.world = ws.world := rfl

@[simp] theorem Workspace.cwd_eraseTypes (ws : Workspace) : ws.eraseTypes.cwd = ws.cwd := rfl

theorem Grammars.firstFlagged?_eraseTypes (grammars : Grammars) (dialect : Dialect)
    (source : List UInt8) :
    (grammars.eraseTypes dialect source).firstFlagged? =
      (grammars dialect source).firstFlagged? := by
  unfold eraseTypes
  split
  · rfl
  · next sound => simp [Parse.firstFlagged?, sound]

/-! ## Outcomes that are related -/

/-- Whether two outcomes are the same failure, or related answers. -/
inductive SameOutcome {α β : Type} (R : α → β → Prop) :
    Except Failure α → Except Failure β → Prop
  | error (e : Failure) : SameOutcome R (.error e) (.error e)
  | ok {a : α} {b : β} (related : R a b) : SameOutcome R (.ok a) (.ok b)

namespace Search

/-- Whether two modules are the same but for what is erased. -/
def ModuleErased (program program' : Cursor) : Prop :=
  Erased program program' ∧ ¬ IsExport program.kind

/-- A source that is accepted has the same root in both workspaces. -/
theorem root_erased {grammars : Grammars} (grammatical : grammars.Grammatical) {dialect : Dialect}
    {source : List UInt8} (sound : (grammars dialect source).firstFlagged? = none) (serial : Nat)
    (o : Options) :
    ModuleErased (.top (.root serial source (grammars dialect source).tree) (some o))
      (.top (.root serial source (grammars.eraseTypes dialect source).tree) (some o)) := by
  have sound : (grammars dialect source).hasError = false := by
    simpa [Parse.firstFlagged?] using sound
  obtain ⟨root, everywhere⟩ := grammatical dialect source sound
  have tree : (grammars.eraseTypes dialect source).tree =
      (grammars dialect source).tree.prune Export.isErased := by
    simp [Grammars.eraseTypes, sound]
  rw [tree]
  exact ⟨.top everywhere serial source (some o), root⟩

theorem parseWith_erased {grammars : Grammars} (grammatical : grammars.Grammatical)
    (choice : GrammarChoice) (o : Options) (serial : Nat) (source : List UInt8) :
    SameOutcome ModuleErased (parseWith grammars choice o serial source).outcome
        (parseWith grammars.eraseTypes choice o serial source).outcome ∧
      (parseWith grammars.eraseTypes choice o serial source).events =
        (parseWith grammars choice o serial source).events := by
  unfold parseWith
  simp only [grammars.firstFlagged?_eraseTypes]
  cases first : (grammars choice.dialect source).firstFlagged? with
  | none => exact ⟨.ok (root_erased grammatical first serial o), rfl⟩
  | some flagged =>
    cases choice.fallback with
    | none => exact ⟨.error _, rfl⟩
    | some fallback =>
      dsimp only
      cases second : (grammars fallback source).firstFlagged? with
      | none => exact ⟨.ok (root_erased grammatical second serial o), rfl⟩
      | some _ => exact ⟨.error _, rfl⟩

variable {r : Resolver} {ws : Workspace}

theorem load_erased (grammatical : ws.grammars.Grammatical) (serial : Nat) (path : Path)
    (o : Options) :
    SameOutcome ModuleErased (ws.load serial path o).outcome
        (ws.eraseTypes.load serial path o).outcome ∧
      (ws.eraseTypes.load serial path o).events = (ws.load serial path o).events := by
  have same : ws.eraseTypes.readText path = ws.readText path :=
    Workspace.readText_congr ws.world_eraseTypes ws.cwd_eraseTypes path
  rw [Workspace.load, Workspace.load, Workspace.loadAs, Workspace.loadAs, same]
  cases ws.readText path with
  | error e => exact ⟨.error e, rfl⟩
  | ok text =>
    dsimp only
    cases (chooseGrammar (o.forFile path)).outcome with
    | error e => exact ⟨.error e, rfl⟩
    | ok choice =>
      obtain ⟨outcome, events⟩ := parseWith_erased grammatical choice (o.forFile path) serial
        (Text.Utf8.encode text)
      exact ⟨outcome, congrArg (_ ++ ·) events⟩

/-! ## Searches side by side -/

/-- Whether two acts are the same but for what is erased. -/
inductive Act.Erased : Act → Act → Prop
  | mark (module : Path) : Erased (.mark module) (.mark module)
  | load (module : Path) {outcome outcome' : Except Failure Cursor}
    (outcomes : SameOutcome ModuleErased outcome outcome') :
    Erased (.load module outcome) (.load module outcome')

/-- Whether two searches have come equally far. -/
structure Progress.Erased (p p' : Progress) : Prop where
  visited : p'.visited = p.visited
  acts : List.Forall₂ Act.Erased p.acts p'.acts
  events : p'.events = p.events
  serial : p'.serial = p.serial

namespace Progress.Erased

variable {p p' : Progress}

theorem start (before : List Path) (serial : Nat) :
    Erased (.start before serial) (.start before serial) :=
  ⟨rfl, .nil, rfl, rfl⟩

theorem record (h : p.Erased p') (events : List Log.Event) :
    (p.record events).Erased (p'.record events) :=
  { h with events := congrArg (· ++ events) h.events }

theorem mark (h : p.Erased p') (module : Path) : (p.mark module).Erased (p'.mark module) where
  visited := congrArg (module :: ·) h.visited
  acts := List.rel_append h.acts (.cons (.mark module) .nil)
  events := h.events
  serial := h.serial

theorem attempt (h : p.Erased p') (module : Path) {loaded loaded' : Recorded Cursor}
    (outcomes : SameOutcome ModuleErased loaded.outcome loaded'.outcome)
    (events : loaded'.events = loaded.events) :
    (p.attempt module loaded).Erased (p'.attempt module loaded') where
  visited := h.visited
  acts := List.rel_append h.acts (.cons (.load module outcomes) .nil)
  events := congrArg₂ (· ++ ·) h.events events
  serial := congrArg (· + 1) h.serial

/-- Both have entered the same modules in the same order. -/
theorem marks_eq (h : p.Erased p') : marks p'.acts = marks p.acts := by
  have acts := h.acts
  generalize p.acts = as at acts ⊢
  generalize p'.acts = as' at acts ⊢
  induction acts with
  | nil => rfl
  | cons act _ ih =>
    cases act with
    | mark module => exact congrArg (module :: ·) ih
    | load => exact ih

/-- Both have loaded the same modules in the same order. -/
theorem loads_eq (h : p.Erased p') : loads p'.acts = loads p.acts := by
  have acts := h.acts
  generalize p.acts = as at acts ⊢
  generalize p'.acts = as' at acts ⊢
  induction acts with
  | nil => rfl
  | cons act _ ih =>
    cases act with
    | mark => exact ih
    | load module => exact congrArg (module :: ·) ih

end Progress.Erased

/-- Whether two searches end alike, with related answers. -/
inductive EndErased (R : Cursor → Cursor → Prop) : Outcome × Progress → Outcome × Progress → Prop
  | failed (e : Failure) {p p' : Progress} (alike : p.Erased p') :
    EndErased R (.error e, p) (.error e, p')
  | found {result result' : Option Cursor} {p p' : Progress}
    (results : Option.Rel R result result') (alike : p.Erased p') :
    EndErased R (.ok result, p) (.ok result', p')

/-- Whether two edges name the same source in the same surroundings. -/
def SameEdge (edge edge' : Cursor) : Prop :=
  source? edge' = source? edge ∧ edge'.options = edge.options

/-- A statement that keeps its source is the same edge. -/
theorem sameEdge_of_pruned {drop : Tree → Bool} {P : Tree → Prop} {edge edge' : Cursor}
    (h : edge.Pruned drop P edge') (kept : edge.node.tree.FieldKept drop "source") :
    SameEdge edge edge' :=
  ⟨bind_eq_of_rel (h.field? kept) fun _ _ source => source.stringValue?, h.options⟩

theorem enter_erased (grammatical : ws.grammars.Grammatical) {edge edge' : Cursor}
    (edges : SameEdge edge edge') {p p' : Progress} (h : p.Erased p') :
    EndErased ModuleErased (enter r ws edge p) (enter r ws.eraseTypes edge' p') := by
  obtain ⟨source, options⟩ := edges
  rw [enter, enter, source, options]
  cases source? edge with
  | none => exact .found .none h
  | some source =>
    have same : r.locator.locateFor ws.eraseTypes source edge.options =
        r.locator.locateFor ws source edge.options :=
      r.locator.locateFor_congr ws.world_eraseTypes ws.cwd_eraseTypes source edge.options
    dsimp only
    rw [same]
    generalize r.locator.locateFor ws source edge.options = found
    rcases found with ⟨e | _ | path, located⟩
    · exact .failed e (h.record _)
    · exact .found .none (h.record _)
    · dsimp only
      rw [h.visited]
      split
      · exact .found .none (h.record _)
      · rw [h.serial]
        obtain ⟨outcomes, events⟩ := load_erased grammatical p.serial path edge.options
        have alike := ((h.record located).mark path).attempt path outcomes events
        generalize ws.load p.serial path edge.options = loaded at outcomes alike ⊢
        generalize ws.eraseTypes.load p.serial path edge.options = loaded' at outcomes alike ⊢
        obtain ⟨outcome, events⟩ := loaded
        obtain ⟨outcome', events'⟩ := loaded'
        cases outcomes with
        | error e => exact .failed e alike
        | ok related => exact .found (.some related) alike

namespace Recursive

/-- Whether requests are answered alike. -/
def AskErased (ask ask' : Ask) : Prop :=
  ∀ {edge edge' : Cursor} (name : String) {p p' : Progress}, SameEdge edge edge' → p.Erased p' →
    EndErased Erased (ask edge name p) (ask' edge' name p')

variable {ask ask' : Ask}

theorem absorb_erased (clears : Bool) {result result' answer answer' : Option Cursor}
    (results : Option.Rel Erased result result') (answers : Option.Rel Erased answer answer') :
    Option.Rel Erased (absorb clears result answer) (absorb clears result' answer') := by
  cases clears with
  | true => exact answers
  | false => exact rel_orElse answers results

theorem perform_erased (asks : AskErased ask ask') {item item' : Export.Item}
    (items : item.Erased item') {result result' : Option Cursor}
    (results : Option.Rel Erased result result') {p p' : Progress} (h : p.Erased p') :
    EndErased Erased (perform ask item result p) (perform ask' item' result' p') := by
  cases items with
  | settle settled => exact .found settled h
  | @ask edge edge' edges name clears =>
    have same : SameEdge edge edge' := sameEdge_of_pruned edges (edges.fieldKept (by decide))
    have answered := asks name same h
    rw [perform, perform]
    generalize ask edge name p = found at answered ⊢
    generalize ask' edge' name p' = found' at answered ⊢
    cases answered with
    | failed e h => exact .failed e h
    | found answers h => exact .found (absorb_erased clears results answers) h

theorem forAll_erased (asks : AskErased ask ask') {items items' : List Export.Item}
    (agendas : List.Forall₂ Export.Item.Erased items items') {result result' : Option Cursor}
    (results : Option.Rel Erased result result') {p p' : Progress} (h : p.Erased p') :
    EndErased Erased (forAll (perform ask) items result p)
      (forAll (perform ask') items' result' p') := by
  induction agendas generalizing result result' p p' with
  | nil => exact .found results h
  | @cons item item' items items' first _ ih =>
    have performed := perform_erased asks first results h
    rw [forAll, forAll]
    generalize perform ask item result p = found at performed ⊢
    generalize perform ask' item' result' p' = found' at performed ⊢
    cases performed with
    | failed e h => exact .failed e h
    | found results h => exact ih results h

theorem module_erased (asks : AskErased ask ask') {program program' : Cursor}
    (modules : ModuleErased program program') (name : String) {p p' : Progress} (h : p.Erased p') :
    EndErased Erased (module ask program name p) (module ask' program' name p') := by
  rw [module_eq, module_eq]
  exact forAll_erased asks (Export.agenda_erased modules.1 modules.2 name) .none h

theorem visit_erased (grammatical : ws.grammars.Grammatical) (asks : AskErased ask ask') :
    AskErased (visit r ws ask) (visit r ws.eraseTypes ask') := by
  intro edge edge' name p p' edges h
  have entered : EndErased ModuleErased (enter r ws edge p) (enter r ws.eraseTypes edge' p') :=
    enter_erased grammatical edges h
  rw [visit, visit]
  generalize enter r ws edge p = found at entered ⊢
  generalize enter r ws.eraseTypes edge' p' = found' at entered ⊢
  cases entered with
  | failed e h => exact .failed e h
  | found modules h =>
    cases modules with
    | none => exact .found .none h
    | some modules => exact module_erased asks modules name h

variable (r) in
theorem refuse_erased : AskErased (refuse r) (refuse r) :=
  fun _ _ _ _ h => .found .none (h.record _)

/-- At every place of the chain, the requests of a module are answered alike. -/
theorem asker_erased (grammatical : ws.grammars.Grammatical) (depth : Nat) :
    AskErased (asker r ws depth) (asker r ws.eraseTypes depth) := by
  rw [asker, asker]
  split
  · next deeper =>
    rw [request_eq, request_eq]
    exact visit_erased grammatical (asker_erased grammatical (depth + 1))
  · exact refuse_erased r
termination_by (r.maxDepth - depth).toNat

end Recursive

theorem resolve_erased (grammatical : ws.grammars.Grammatical) {edge edge' : Cursor}
    (edges : SameEdge edge edge') (name : String) {p p' : Progress} (h : p.Erased p') :
    EndErased Erased (r.resolve ws edge name p) (r.resolve ws.eraseTypes edge' name p') := by
  rw [resolve_eq, resolve_eq, Recursive.resolve, Recursive.resolve, Recursive.request_eq,
    Recursive.request_eq]
  exact Recursive.visit_erased grammatical (Recursive.asker_erased grammatical 1) name edges h

theorem findExported_erased (grammatical : ws.grammars.Grammatical) {program program' : Cursor}
    (modules : ModuleErased program program') (name : String) {p p' : Progress} (h : p.Erased p') :
    EndErased Erased (r.findExported ws program name p)
      (r.findExported ws.eraseTypes program' name p') := by
  rw [findExported_eq, findExported_eq, Recursive.findExported, Recursive.findExported]
  exact Recursive.module_erased (Recursive.asker_erased grammatical 1) modules name h

end Search

end ExportTrail
