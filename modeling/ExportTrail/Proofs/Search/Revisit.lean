import ExportTrail.Proofs.Search.Surveyed
import Mathlib

/-!
# What the visited modules prune

A module that was visited is not searched again, for whatever name. Where modules do not refer to
one another in cycles this is not needed for the search to end, and one can ask what it changes:
`resolve_iff_revisit` compares the search with the one that enters visited modules again. The search
never finds anything that the other one does not. It also finds something whenever the other one
does, as long as no module is entered twice behind a module that can make a result nothing; that is
one with a specifier that passes the name on, or with a void default export. Without this condition
it can lose an export (`resolve_loses_export`): a specifier that passes a name on to a visited
module gets an answer of nothing, and this replaces what was found before.

Behind all of this are surveys: where modules do not refer to one another in cycles, the requests of
a search make a finite tree (`surveyed_of_searchable`).
-/

namespace ExportTrail.Search

open Relation (TransGen ReflTransGen)

variable (r : Resolver) (ws : Workspace)

/-- Whether a statement of a module, read with given options, passes some name on to another
module. -/
def Passes (o : Options) (m m' : Path) : Prop :=
  ∃ program s name name', Reads ws o m program ∧ s ∈ Export.statements program ∧
    Export.Forwards name s name' ∧ Leads r ws s m'

/-- Whether a module that is asked for a name asks another module for a name in turn, if it gets as
far. -/
def Asks (o : Options) (x y : Path × String) : Prop :=
  ∃ program edge clears, Reads ws o x.1 program ∧
    .ask edge y.2 clears ∈ Export.agenda program x.2 ∧ Leads r ws edge y.1

/-- Whether a module is asked for a name in the search from an edge, if visited modules are entered
again. -/
def Requested (edge : Cursor) (name : String) (x : Path × String) : Prop :=
  ∃ m, Leads r ws edge m ∧ ReflTransGen (Asks r ws edge.options) (m, name) x

/-- Whether a module can be loaded, and the modules that it asks on behalf of a name can be
located. -/
structure Searchable (o : Options) (x : Path × String) : Prop where
  loads : ∃ program, Reads ws o x.1 program
  locates : ∀ program edge name clears failure, Reads ws o x.1 program →
    .ask edge name clears ∈ Export.agenda program x.2 → ¬ Misleads r ws edge failure

/-- Whether a module that is asked for a name can make the result nothing. -/
def Clears (o : Options) (x : Path × String) : Prop :=
  ∃ program item, Reads ws o x.1 program ∧ item ∈ Export.agenda program x.2 ∧ item.clears = true

variable {r ws}

section

variable {o : Options} {items : List Export.Item} {w : Survey}

theorem Asks.passes {x y : Path × String} (h : Asks r ws o x y) : Passes r ws o x.1 y.1 := by
  obtain ⟨program, edge, clears, reads, mem, leads⟩ := h
  obtain ⟨statement, forwards⟩ := Export.forwards_of_mem_agenda mem
  exact ⟨program, edge, x.2, y.2, reads, statement, forwards, leads⟩

/-! ## Finitely many requests -/

/-- Without cycles, names are passed on finitely often. -/
theorem wellFounded_passes (acyclic : ∀ m, ¬ TransGen (Passes r ws o) m m) :
    WellFounded fun m' m => Passes r ws o m m' := by
  have finite (m : Path) : {m' | TransGen (Passes r ws o) m m'}.Finite := by
    refine (ws.world.locations.map Location.toPath).finite_toSet.subset fun m' behind => ?_
    obtain ⟨_, -, program, s, _, _, -, -, -, leads⟩ := TransGen.tail'_iff.1 behind
    exact leads.mem_locations
  have fewer {m m' : Path} (passes : Passes r ws o m m') :
      {m'' | TransGen (Passes r ws o) m' m''}.ncard <
        {m'' | TransGen (Passes r ws o) m m''}.ncard := by
    refine Set.ncard_lt_ncard ⟨fun m'' behind => .head passes behind, fun sub => ?_⟩ (finite m)
    exact acyclic m' (sub (.single passes))
  exact Subrelation.wf fewer (measure fun m => {m' | TransGen (Passes r ws o) m m'}.ncard).wf

/-- An agenda has a survey if the modules that it asks have one. -/
theorem surveyed_items
    (each : ∀ edge name clears, .ask edge name clears ∈ items →
      (∀ failure, ¬ Misleads r ws edge failure) ∧
      ∀ m, Leads r ws edge m → edge.options.forFile m = o.forFile m ∧
        (∃ program, Reads ws o m program) ∧
        ∃ inner, ∀ program, Reads ws o m program →
          Surveyed r ws o (Export.agenda program name) inner) :
    ∃ w, Surveyed r ws o items w := by
  induction items with
  | nil => exact ⟨.done, .done⟩
  | cons item items ih =>
    obtain ⟨w, later⟩ :=
      ih fun edge name clears mem => each edge name clears (List.mem_cons_of_mem _ mem)
    cases item with
    | settle found => exact ⟨_, .settle later⟩
    | ask edge name clears =>
      obtain ⟨locates, asked⟩ := each edge name clears List.mem_cons_self
      by_cases some : ∃ m, Leads r ws edge m
      · obtain ⟨m, leads⟩ := some
        obtain ⟨options, loads, inner, inside⟩ := asked m leads
        exact ⟨_, .into leads options loads inside later⟩
      · exact ⟨_, .nowhere (fun m leads => some ⟨m, leads⟩) locates later⟩

variable {edge : Cursor} {name : String}

theorem Requested.tail {x y : Path × String} (h : Requested r ws edge name x)
    (asks : Asks r ws edge.options x y) : Requested r ws edge name y := by
  obtain ⟨m, leads, requested⟩ := h
  exact ⟨m, leads, requested.tail asks⟩

theorem Requested.mem_locations {x : Path × String} (h : Requested r ws edge name x) :
    x.1 ∈ ws.world.locations.map Location.toPath := by
  obtain ⟨m, leads, requested⟩ := h
  cases requested with
  | refl => exact leads.mem_locations
  | tail _ asks =>
    obtain ⟨_, _, _, _, _, leads⟩ := asks
    exact leads.mem_locations

/-- Every request of a search without cycles and failures has a survey. -/
theorem surveyed_of_requested (acyclic : ∀ m, ¬ TransGen (Passes r ws edge.options) m m)
    (searchable : ∀ x, Requested r ws edge name x → Searchable r ws edge.options x) (m : Path) :
    ∀ name', Requested r ws edge name (m, name') → ∃ inner, ∀ program,
      Reads ws edge.options m program →
        Surveyed r ws edge.options (Export.agenda program name') inner := by
  induction m using (wellFounded_passes acyclic).induction with
  | _ m ih =>
    intro name' requested
    have here := searchable _ requested
    obtain ⟨program, serial, loaded⟩ := here.loads
    have surveyed : ∃ inner, Surveyed r ws edge.options (Export.agenda program name') inner := by
      refine surveyed_items fun s name'' clears mem => ⟨fun failure => ?_, fun m' leads => ?_⟩
      · exact here.locates program s name'' clears failure ⟨serial, loaded⟩ mem
      · have asks : Asks r ws edge.options (m, name') (m', name'') :=
          ⟨program, s, clears, ⟨serial, loaded⟩, mem, leads⟩
        have next := requested.tail asks
        exact ⟨leads.forFile loaded (Export.forwards_of_mem_agenda mem).1,
          (searchable _ next).loads, ih m' asks.passes name'' next⟩
    obtain ⟨inner, surveyed⟩ := surveyed
    refine ⟨inner, fun program' reads => ?_⟩
    obtain ⟨k, rfl⟩ := reads.renumber loaded
    rw [Export.agenda_renumber]
    exact surveyed.renumber k

/-- So has the search itself. -/
theorem surveyed_of_searchable (acyclic : ∀ m, ¬ TransGen (Passes r ws edge.options) m m)
    (locates : ∀ failure, ¬ Misleads r ws edge failure)
    (searchable : ∀ x, Requested r ws edge name x → Searchable r ws edge.options x) :
    ∃ w, Surveyed r ws edge.options [.ask edge name false] w := by
  refine surveyed_items fun edge' name' clears mem => ?_
  obtain ⟨rfl, rfl, rfl⟩ := Export.Item.ask.inj (List.mem_singleton.1 mem)
  refine ⟨locates, fun m leads => ?_⟩
  have requested : Requested r ws edge' name' (m, name') := ⟨m, leads, .refl⟩
  exact ⟨rfl, (searchable _ requested).loads,
    surveyed_of_requested acyclic searchable m name' requested⟩

/-! ## The modules of a survey -/

/-- The modules of a survey are asked. -/
theorem Surveyed.asked_of_mem_modules (h : Surveyed r ws o items w) {m : Path}
    (mem : m ∈ w.modules) :
    ∃ edge name clears m' name', .ask edge name clears ∈ items ∧ Leads r ws edge m' ∧
      ReflTransGen (Asks r ws o) (m', name) (m, name') := by
  induction h with
  | done => cases mem
  | settle later ih =>
    obtain ⟨edge, name, clears, m', name', asked, rest⟩ := ih mem
    exact ⟨edge, name, clears, m', name', List.mem_cons_of_mem _ asked, rest⟩
  | nowhere _ _ later ih =>
    obtain ⟨edge, name, clears, m', name', asked, rest⟩ := ih mem
    exact ⟨edge, name, clears, m', name', List.mem_cons_of_mem _ asked, rest⟩
  | @into edge name clears first rest inner w leads _ loads inside later ihInside ih =>
    rw [Survey.modules, List.mem_cons, List.mem_append] at mem
    rcases mem with rfl | deep | late
    · exact ⟨edge, name, clears, m, name, List.mem_cons_self, leads, .refl⟩
    · obtain ⟨program, reads⟩ := loads
      obtain ⟨s, name₁, clears₁, m₁, name', asked, leads₁, behind⟩ := ihInside program reads deep
      exact ⟨edge, name, clears, first, name', List.mem_cons_self, leads,
        .head ⟨program, s, clears₁, reads, asked, leads₁⟩ behind⟩
    · obtain ⟨edge', name', clears', m', name'', asked, behind⟩ := ih late
      exact ⟨edge', name', clears', m', name'', List.mem_cons_of_mem _ asked, behind⟩

/-- The modules of the survey of a module are asked on its behalf. -/
theorem Surveyed.behind_of_mem_modules {m m' : Path} {name : String} {program : Cursor}
    (reads : Reads ws o m program) (h : Surveyed r ws o (Export.agenda program name) w)
    (mem : m' ∈ w.modules) : ∃ name', TransGen (Asks r ws o) (m, name) (m', name') := by
  obtain ⟨edge, name₁, clears, m₁, name', asked, leads, behind⟩ := h.asked_of_mem_modules mem
  have asks : Asks r ws o (m, name) (m₁, name₁) := ⟨program, edge, clears, reads, asked, leads⟩
  exact ⟨name', .head' asks behind⟩

/-- What holds of the survey of each module that is requested holds everywhere. -/
theorem Surveyed.everywhere {P : Path → Survey → Prop} {R : Path × String → Prop}
    (closed : ∀ x y, R x → Asks r ws o x y → R y)
    (holds : ∀ m name inner program, R (m, name) → Reads ws o m program →
      Surveyed r ws o (Export.agenda program name) inner → P m inner)
    (h : Surveyed r ws o items w)
    (first : ∀ edge name clears m, .ask edge name clears ∈ items → Leads r ws edge m →
      R (m, name)) :
    w.Everywhere P := by
  induction h with
  | done => trivial
  | settle later ih =>
    exact ih fun edge name c m mem => first edge name c m (List.mem_cons_of_mem _ mem)
  | nowhere _ _ later ih =>
    exact ih fun edge name c m mem => first edge name c m (List.mem_cons_of_mem _ mem)
  | @into edge name clears m rest inner w leads _ loads inside later ihInside ih =>
    obtain ⟨program, reads⟩ := loads
    have here : R (m, name) := first edge name clears m List.mem_cons_self leads
    refine ⟨holds m name inner program here reads (inside program reads), ?_, ?_⟩
    · exact ihInside program reads fun edge' name' c m' mem leads' =>
        closed _ _ here ⟨program, edge', c, reads, mem, leads'⟩
    · exact ih fun edge name c m mem => first edge name c m (List.mem_cons_of_mem _ mem)

variable (r ws) in
/-- The survey of a module that is asked for a name, if it has one. -/
noncomputable def surveyOf (o : Options) (name : String) (m : Path) : Survey :=
  Classical.epsilon fun inner => ∀ program, Reads ws o m program →
    Surveyed r ws o (Export.agenda program name) inner

theorem surveyOf_eq {m : Path} {name : String} (loads : ∃ program, Reads ws o m program)
    (inside : ∀ program, Reads ws o m program → Surveyed r ws o (Export.agenda program name) w) :
    w = surveyOf r ws o name m := by
  obtain ⟨program, reads⟩ := loads
  have chosen := Classical.epsilon_spec (p := fun inner => ∀ program, Reads ws o m program →
    Surveyed r ws o (Export.agenda program name) inner) ⟨w, inside⟩
  exact (chosen program reads).unique (inside program reads)

/-- Where no result can be lost, all modules are asked for the same name. -/
theorem Surveyed.uniform (h : Surveyed r ws o items w)
    (named : ∀ edge name' clears, .ask edge name' clears ∈ items → name' = name) :
    w.Uniform (surveyOf r ws o name) := by
  induction h with
  | done => trivial
  | settle later ih =>
    exact ih fun edge name' c mem => named edge name' c (List.mem_cons_of_mem _ mem)
  | nowhere _ _ later ih =>
    exact ih fun edge name' c mem => named edge name' c (List.mem_cons_of_mem _ mem)
  | @into edge name' clears m rest inner w leads _ loads inside later ihInside ih =>
    obtain rfl : name' = name := named edge name' clears List.mem_cons_self
    refine ⟨surveyOf_eq loads inside, fun plain => ?_, ?_⟩
    · obtain ⟨program, reads⟩ := loads
      refine ihInside program reads fun edge' name'' c mem => ?_
      rw [(inside program reads).clears_eq, List.any_eq_false] at plain
      have kept : c = false := by simpa [Export.Item.clears] using plain _ mem
      exact Export.name_of_mem_agenda (kept ▸ mem)
    · exact ih fun edge name' c mem => named edge name' c (List.mem_cons_of_mem _ mem)

/-! ## The survey of a search -/

/-- Without cycles no module is entered on behalf of itself. -/
theorem Surveyed.apart (acyclic : ∀ m, ¬ TransGen (Passes r ws o) m m)
    (h : Surveyed r ws o items w) : w.Everywhere fun m inner => m ∉ inner.modules := by
  refine h.everywhere (R := fun _ => True) (fun _ _ _ _ => trivial) ?_ (fun _ _ _ _ _ _ => trivial)
  intro m name' inner program _ reads inside mem
  obtain ⟨name'', behind⟩ := inside.behind_of_mem_modules reads mem
  exact acyclic m (behind.lift Prod.fst fun _ _ => Asks.passes)

/-- The module of the edge is the first to be asked. -/
theorem requested_of_mem {edge' : Cursor} {name' : String} {clears : Bool} {m : Path}
    (mem : .ask edge' name' clears ∈ [Export.Item.ask edge name false])
    (leads : Leads r ws edge' m) : Requested r ws edge name (m, name') := by
  obtain ⟨rfl, rfl, -⟩ := Export.Item.ask.inj (List.mem_singleton.1 mem)
  exact ⟨m, leads, .refl⟩

section

variable (h : Surveyed r ws edge.options [.ask edge name false] w)
include h

/-- No result is lost by the request itself. -/
theorem Surveyed.plain : w.clears = false := by
  rw [h.clears_eq]
  rfl

theorem Surveyed.requested {m : Path} (mem : m ∈ w.modules) :
    ∃ name', Requested r ws edge name (m, name') := by
  obtain ⟨edge', name', clears, m', name'', asked, leads, behind⟩ := h.asked_of_mem_modules mem
  obtain ⟨m₁, leads₁, upTo⟩ := requested_of_mem asked leads
  exact ⟨name'', m₁, leads₁, upTo.trans behind⟩

/-- A chain of requests is no longer than there are modules asked. -/
theorem Surveyed.height_le (acyclic : ∀ m, ¬ TransGen (Passes r ws edge.options) m m) :
    w.height ≤ {m | ∃ name', Requested r ws edge name (m, name')}.ncard := by
  obtain ⟨chain, nodup, sub, length⟩ := Survey.exists_chain (h.apart acyclic)
  have finite : {m | ∃ name', Requested r ws edge name (m, name')}.Finite :=
    (ws.world.locations.map Location.toPath).finite_toSet.subset
      fun m ⟨name', requested⟩ => requested.mem_locations
  have asked : (chain.toFinset : Set Path) ⊆ {m | ∃ name', Requested r ws edge name (m, name')} :=
    fun m mem => h.requested (sub (by simpa using mem))
  have few := Set.ncard_le_ncard asked finite
  rwa [Set.ncard_coe_finset, List.toFinset_card_of_nodup nodup, length] at few

/-- The survey spares what the search spares. -/
theorem Surveyed.spared {all : List Path}
    (once : ∀ x y, Requested r ws edge name x → Clears ws edge.options x →
      TransGen (Asks r ws edge.options) x y → all.count y.1 ≤ 1) :
    w.Everywhere fun _ => Survey.Spared all := by
  refine h.everywhere (R := Requested r ws edge name) (fun _ _ => Requested.tail) ?_
    fun _ _ _ _ => requested_of_mem
  intro m name' inner program requested reads inside clears m' mem
  obtain ⟨name'', behind⟩ := inside.behind_of_mem_modules reads mem
  rw [inside.clears_eq, List.any_eq_true] at clears
  obtain ⟨item, mem, clears⟩ := clears
  exact once _ _ requested ⟨program, item, reads, mem, clears⟩ behind

end

end

/-! ## The two searches -/

/-- **Pruning is sound, and complete where nothing can be lost.** Suppose that the modules of the
world do not pass names on in cycles, that all modules that are asked in the search from an edge can
be located and loaded, and that the resolver allows for longer chains than there are such modules.
Then the search, begun with no module visited, and the same search that enters visited modules again
both end without a failure. If the first one finds a node, so does the second. If the second one
finds a node, so does the first, provided that it loads no module twice that is asked on behalf of a
module that can make the result nothing. -/
theorem resolve_iff_revisit (edge : Cursor) (name : String)
    (acyclic : ∀ m, ¬ TransGen (Passes r ws edge.options) m m)
    (locates : ∀ failure, ¬ Misleads r ws edge failure)
    (searchable : ∀ x, Requested r ws edge name x → Searchable r ws edge.options x)
    (enough : ({m | ∃ name', Requested r ws edge name (m, name')}.ncard : Int) < r.maxDepth)
    (serial : Nat) :
    ∃ found p found' p', r.resolve ws edge name (.start [] serial) = (.ok found, p) ∧
      Recursive.revisit r ws 1 edge name (.start [] serial) = (.ok found', p') ∧
      (found.isSome → found'.isSome) ∧
      ((∀ x y, Requested r ws edge name x → Clears ws edge.options x →
          TransGen (Asks r ws edge.options) x y → (loads p'.acts).count y.1 ≤ 1) →
        (found.isSome ↔ found'.isSome)) := by
  obtain ⟨w, surveyed⟩ := surveyed_of_searchable acyclic locates searchable
  have height := surveyed.height_le acyclic
  obtain ⟨found, p, found', p', eq, eq', pruned, isSome, loaded⟩ :=
    resolve_revisit_surveyed surveyed (by omega) (by omega) serial
  have less : found.isSome → found'.isSome := by
    intro some
    rw [isSome]
    exact Survey.found_of_pruned id (by rw [pruned]; exact some)
  refine ⟨found, p, found', p', eq, eq', less, fun once => ⟨less, fun some => ?_⟩⟩
  rw [loaded] at once
  have uniform : w.Uniform (surveyOf r ws edge.options name) := by
    refine surveyed.uniform fun edge' name' clears mem => ?_
    exact (Export.Item.ask.inj (List.mem_singleton.1 mem)).2.1
  have kept := Survey.pruned_of_found surveyed.plain (surveyed.apart acyclic) (surveyed.spared once)
    uniform (isSome ▸ some)
  rw [pruned] at kept
  exact kept

/-! ## A module that two statements refer to

The file `a.js` passes everything on that `d.js` exports, and then the name `x` once more; its text
is `export*from'./d';export{x}from'./d'`, and that of `d.js` is `export{x}`. The file `m.js` with
the text `export*from'./a';` refers to it. -/

namespace SharedModule

open TwoModules (leaf branch wildcardTree options wildcard)

/-- The statement that passes the name on. -/
def passedTree : Tree :=
  branch "export_statement" 17 35
    [leaf "export" false 17 23,
      branch "export_clause" 23 26
        [leaf "\x7b" false 23 24,
          branch "export_specifier" 24 25 [leaf "identifier" true 24 25] [("name", 0)],
          leaf "\x7d" false 25 26] [],
      leaf "from" false 26 30,
      branch "string" 30 35
        [leaf "'" false 30 31, leaf "string_fragment" true 31 34, leaf "'" false 34 35] []]
    [("source", 3)]

/-- The statement that exports the name. -/
def ownTree : Tree :=
  branch "export_statement" 0 9
    [leaf "export" false 0 6,
      branch "export_clause" 6 9
        [leaf "\x7b" false 6 7,
          branch "export_specifier" 7 8 [leaf "identifier" true 7 8] [("name", 0)],
          leaf "\x7d" false 8 9] []]
    []

def entryTree : Tree := branch "program" 0 17 [wildcardTree] []

def passingTree : Tree := branch "program" 0 35 [wildcardTree, passedTree] []

def definingTree : Tree := branch "program" 0 9 [ownTree] []

def entryText : List UInt8 := Text.Utf8.encode "export*from'./a';".toList

def passingText : List UInt8 := Text.Utf8.encode "export*from'./d';export\x7bx\x7dfrom'./d'".toList

def definingText : List UInt8 := Text.Utf8.encode "export\x7bx\x7d".toList

def entry : Path := ⟨.root, ["m.js"]⟩

def passing : Path := ⟨.root, ["a.js"]⟩

def defining : Path := ⟨.root, ["d.js"]⟩

def workspace : Workspace where
  world := ⟨[(["m.js"], .file entryText), (["a.js"], .file passingText),
    (["d.js"], .file definingText)]⟩
  cwd := []
  grammars _ text :=
    ⟨if text.length = 17 then entryTree else if text.length = 35 then passingTree else definingTree,
      false⟩

/-- A resolver that allows for more modules than there are. -/
def resolver : Resolver := ⟨Locator.default, 4⟩

def entryProgram (serial : Nat) : Cursor :=
  .top (Node.root serial entryText entryTree) (some (options entry))

def passingProgram (serial : Nat) : Cursor :=
  .top (Node.root serial passingText passingTree) (some (options passing))

def definingProgram (serial : Nat) : Cursor :=
  .top (Node.root serial definingText definingTree) (some (options defining))

/-- The second statement of `a.js`. -/
def passed (program : Cursor) : Cursor := .via program (program.node.childAt 1 passedTree)

/-- The statement of `d.js`. -/
def own (program : Cursor) : Cursor := .via program (program.node.childAt 0 ownTree)

/-- The name that it exports. -/
def exported (program : Cursor) : Cursor :=
  ((own program).namedChildren.flatMap fun c => c.namedChildren.filterMap (·.field? "name")).headD
    program

variable (serial : Nat)

theorem load_entry (m : Path) :
    (workspace.load serial entry (options m)).outcome = .ok (entryProgram serial) := by
  cbv

theorem load_passing (m : Path) :
    (workspace.load serial passing (options m)).outcome = .ok (passingProgram serial) := by
  cbv

theorem load_defining (m : Path) :
    (workspace.load serial defining (options m)).outcome = .ok (definingProgram serial) := by
  cbv

theorem leads_entry : Leads resolver workspace (wildcard (entryProgram serial)) passing :=
  ⟨"./a", by cbv, by cbv⟩

theorem leads_wildcard : Leads resolver workspace (wildcard (passingProgram serial)) defining :=
  ⟨"./d", by cbv, by cbv⟩

theorem leads_passed : Leads resolver workspace (passed (passingProgram serial)) defining :=
  ⟨"./d", by cbv, by cbv⟩

theorem statements_entry :
    Export.statements (entryProgram serial) = [wildcard (entryProgram serial)] := by
  apply Export.statements_eq_namedChildren
  · cbv
  · cbv
  · intro s mem
    obtain rfl := List.mem_singleton.1 mem
    rfl

theorem statements_passing :
    Export.statements (passingProgram serial) =
      [wildcard (passingProgram serial), passed (passingProgram serial)] := by
  apply Export.statements_eq_namedChildren
  · cbv
  · cbv
  · intro s mem
    rcases List.mem_cons.1 mem with rfl | mem
    · rfl
    · obtain rfl := List.mem_singleton.1 mem
      rfl

theorem statements_defining :
    Export.statements (definingProgram serial) = [own (definingProgram serial)] := by
  apply Export.statements_eq_namedChildren
  · cbv
  · cbv
  · intro s mem
    obtain rfl := List.mem_singleton.1 mem
    rfl

theorem agenda_passing :
    Export.agenda (passingProgram serial) "x" =
      [.ask (wildcard (passingProgram serial)) "x" false,
        .ask (passed (passingProgram serial)) "x" true] := by
  have asked : Export.items "x" (passed (passingProgram serial)) =
      [.ask (passed (passingProgram serial)) "x" true] := by
    cbv
  rw [Export.agenda, statements_passing, List.flatMap_cons, List.flatMap_singleton, asked]
  rfl

theorem agenda_defining :
    Export.agenda (definingProgram serial) "x" =
      [.settle (some (exported (definingProgram serial)))] := by
  have settled : Export.items "x" (own (definingProgram serial)) =
      [.settle (some (exported (definingProgram serial)))] := by
    cbv
  rw [Export.agenda, statements_defining, List.flatMap_singleton, settled]

/-- How many statements it takes from `m.js` to a module. -/
def rank (m : Path) : Nat := if m = entry then 0 else if m = passing then 1 else 2

theorem rank_lt {e m m' : Path} (file : m ∈ [entry, passing, defining])
    (passes : Passes resolver workspace (options e) m m') : rank m < rank m' := by
  obtain ⟨program, s, name, name', ⟨serial, loaded⟩, mem, -, leads⟩ := passes
  simp only [List.mem_cons, List.not_mem_nil, or_false] at file
  rcases file with rfl | rfl | rfl
  · obtain rfl := Except.ok.inj ((load_entry serial e).symm.trans loaded)
    rw [statements_entry, List.mem_singleton] at mem
    subst mem
    rw [leads.unique (leads_entry serial)]
    decide
  · obtain rfl := Except.ok.inj ((load_passing serial e).symm.trans loaded)
    rw [statements_passing, List.mem_cons, List.mem_singleton] at mem
    rcases mem with rfl | rfl
    · rw [leads.unique (leads_wildcard serial)]
      decide
    · rw [leads.unique (leads_passed serial)]
      decide
  · obtain rfl := Except.ok.inj ((load_defining serial e).symm.trans loaded)
    rw [statements_defining, List.mem_singleton] at mem
    subst mem
    obtain ⟨source, sourced, -⟩ := leads
    cases sourced

/-- The modules do not pass names on in cycles. -/
theorem acyclic (e m : Path) : ¬ TransGen (Passes resolver workspace (options e)) m m := by
  have file {m₁ m₂ : Path} (passes : Passes resolver workspace (options e) m₁ m₂) :
      m₂ ∈ [entry, passing, defining] := by
    obtain ⟨_, _, _, _, -, -, -, leads⟩ := passes
    exact leads.mem_locations
  have ascends {m₁ m₂ : Path} (first : m₁ ∈ [entry, passing, defining])
      (behind : TransGen (Passes resolver workspace (options e)) m₁ m₂) : rank m₁ < rank m₂ := by
    induction behind with
    | single passes => exact rank_lt first passes
    | tail earlier passes ih =>
      obtain ⟨_, -, last⟩ := TransGen.tail'_iff.1 earlier
      exact ih.trans (rank_lt (file last) passes)
  intro cycle
  obtain ⟨_, -, last⟩ := TransGen.tail'_iff.1 cycle
  exact absurd (ascends (file last) cycle) (Nat.lt_irrefl _)

theorem surveyed_defining (e : Path) (program : Cursor)
    (reads : Reads workspace (options e) defining program) :
    Surveyed resolver workspace (options e) (Export.agenda program "x") (.settle true .done) := by
  obtain ⟨serial, loaded⟩ := reads
  obtain rfl := Except.ok.inj ((load_defining serial e).symm.trans loaded)
  rw [agenda_defining]
  exact .settle .done

theorem nothing_asked (e : Path) (program : Cursor)
    (reads : Reads workspace (options e) defining program) {edge : Cursor} {name : String}
    {clears : Bool} : .ask edge name clears ∉ Export.agenda program "x" := by
  obtain ⟨serial, loaded⟩ := reads
  obtain rfl := Except.ok.inj ((load_defining serial e).symm.trans loaded)
  rw [agenda_defining, List.mem_singleton]
  intro eq
  cases eq

/-- The survey of a search that starts at `m.js`. -/
def survey : Survey :=
  .into passing false
    (.into defining false (.settle true .done) (.into defining true (.settle true .done) .done))
    .done

theorem surveyed_entry :
    Surveyed resolver workspace (options entry) [.ask (wildcard (entryProgram serial)) "x" false]
      survey := by
  refine .into (leads_entry serial) rfl ⟨_, serial, load_passing serial entry⟩ ?_ .done
  rintro program ⟨k, loaded⟩
  obtain rfl := Except.ok.inj ((load_passing k entry).symm.trans loaded)
  rw [agenda_passing]
  have readable : ∃ program, Reads workspace (options entry) defining program :=
    ⟨_, k, load_defining k entry⟩
  exact .into (leads_wildcard k) rfl readable (surveyed_defining entry)
    (.into (leads_passed k) rfl readable (surveyed_defining entry) .done)

end SharedModule

open TwoModules (options wildcard) in
open SharedModule in
/-- Without the condition pruning can lose an export: `d.js` is visited for the wildcard of `a.js`,
so that the specifier of `a.js` gets an answer of nothing, and this clears what the wildcard has
found. -/
theorem resolve_loses_export :
    (∀ m, ¬ TransGen (Passes resolver workspace (wildcard (entryProgram 0)).options) m m) ∧
    (workspace.world.locations.length : Int) < resolver.maxDepth ∧
    ∃ p found p',
      resolver.resolve workspace (wildcard (entryProgram 0)) "x" (.start [] 0) =
        (.ok none, p) ∧
      Recursive.revisit resolver workspace 1 (wildcard (entryProgram 0)) "x" (.start [] 0) =
        (.ok (some found), p') := by
  obtain ⟨found, p, found', p', eq, eq', pruned, isSome, -⟩ :=
    resolve_revisit_surveyed (surveyed_entry 0) (by decide) (by decide) 0
  refine ⟨acyclic entry, by decide, ?_⟩
  have lost : found = none := by
    have : found.isSome = false := congrArg Prod.fst (pruned.symm.trans (by decide :
      survey.pruned [] false = (false, [defining, passing])))
    simpa using this
  have some : found'.isSome = true := isSome.trans (by decide)
  obtain ⟨node, rfl⟩ := Option.isSome_iff_exists.1 some
  subst lost
  exact ⟨p, node, p', eq, eq'⟩

open TwoModules (options wildcard) in
open SharedModule in
/-- A search that starts at `a.js` enters no module twice. -/
theorem resolve_iff_revisit_shared_module :
    ∃ found p found' p',
      resolver.resolve workspace (wildcard (passingProgram 0)) "x" (.start [] 0) =
        (.ok found, p) ∧
      Recursive.revisit resolver workspace 1 (wildcard (passingProgram 0)) "x"
        (.start [] 0) = (.ok found', p') ∧
      (found.isSome ↔ found'.isSome) := by
  have nothing (y : Path × String) :
      ¬ Asks resolver workspace (options passing) (defining, "x") y := by
    rintro ⟨program, edge, clears, reads, mem, -⟩
    exact nothing_asked passing program reads mem
  have only (x : Path × String)
      (requested : Requested resolver workspace (wildcard (passingProgram 0)) "x" x) :
      x = (defining, "x") := by
    obtain ⟨m, leads, behind⟩ := requested
    obtain rfl := leads.unique (leads_wildcard 0)
    rcases ReflTransGen.cases_head behind with same | ⟨y, asks, -⟩
    · exact same.symm
    · exact absurd asks (nothing y)
  have searchable (x : Path × String)
      (requested : Requested resolver workspace (wildcard (passingProgram 0)) "x" x) :
      Searchable resolver workspace (options passing) x := by
    obtain rfl := only x requested
    refine ⟨⟨_, 0, load_defining 0 passing⟩, ?_⟩
    intro program edge name clears failure reads mem
    exact absurd mem (nothing_asked passing program reads)
  have enough : ({m | ∃ name', Requested resolver workspace
      (wildcard (passingProgram 0)) "x" (m, name')}.ncard : Int) < resolver.maxDepth := by
    have sub : {m | ∃ name', Requested resolver workspace
        (wildcard (passingProgram 0)) "x" (m, name')} ⊆ {defining} := by
      rintro m ⟨name', requested⟩
      exact congrArg Prod.fst (only _ requested)
    have le := Set.ncard_le_ncard sub
    rw [Set.ncard_singleton] at le
    show (_ : Int) < 4
    omega
  obtain ⟨found, p, found', p', eq, eq', -, iff⟩ :=
    resolve_iff_revisit (wildcard (passingProgram 0)) "x" (acyclic passing)
      (fun _ => (leads_wildcard 0).not_misleads) searchable enough 0
  refine ⟨found, p, found', p', eq, eq', iff ?_⟩
  intro x y requested _ behind
  obtain rfl := only x requested
  obtain ⟨z, asks, -⟩ := TransGen.head'_iff.1 behind
  exact absurd asks (nothing z)

end ExportTrail.Search
