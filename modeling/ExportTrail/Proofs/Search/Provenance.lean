import ExportTrail.Proofs.Parse.Inside
import ExportTrail.Proofs.Search.Stack

/-!
# Where results come from

A node that is found stands in a module that the search has visited itself, as that module was
loaded, and its options are those that the search began with, retargeted to the module
(`found_provenance`). So it can be the edge of another search, which looks up its specifiers in the
same directory.

What carries the proof is that the same holds of all that a configuration has in it (`Traced`): the
trees that its frames search have a `Home`, its edges have options of the search, and its results
stand inside such trees. A turn keeps this (`Traced.step`).
-/

namespace ExportTrail.Search

open Cursor (Inside)

/-- Where a tree that is searched comes from, in a search with given options that begins with some
modules visited: it is the one that was given, or a module that was loaded. -/
inductive Home (given : Option Cursor) (o : Options) (before : List Path) (p : Progress) :
    Cursor → Prop
  | given {program : Cursor} (h : given = some program) (own : program.options = o)
    (single : program.node.tree.NoProgramBelow) : Home given o before p program
  | loaded {m : Path} {program : Cursor} (configured : o.filename.isSome) (new : m ∉ before)
    (visited : m ∈ p.visited) (load : .load m (.ok program) ∈ p.acts)
    (own : program.options = o.forFile m) (single : program.node.tree.NoProgramBelow) :
    Home given o before p program

/-- Whether an edge has the options of the search, for whatever file. -/
def HasOptions (o : Options) (edge : Cursor) : Prop :=
  edge.options = o ∨ o.filename.isSome ∧ ∃ m, edge.options = o.forFile m

section

variable {r : Resolver} {ws : Workspace} {given : Option Cursor} {o : Options} {before : List Path}
  {p q : Progress}

theorem Home.mono {program : Cursor} (h : Home given o before p program) (acts : p.acts ⊆ q.acts)
    (visited : p.visited ⊆ q.visited) : Home given o before q program := by
  cases h with
  | given h own single => exact .given h own single
  | loaded configured new mem load own single =>
    exact .loaded configured new (visited mem) (acts load) own single

theorem Home.single {program : Cursor} (h : Home given o before p program) :
    program.node.tree.NoProgramBelow := by
  cases h with
  | given _ _ single => exact single
  | loaded _ _ _ _ _ single => exact single

/-- The statements of a tree that is searched have the options of the search. -/
theorem Home.hasOptions {program s : Cursor} (h : Home given o before p program)
    (mem : s ∈ Export.statements program) : HasOptions o s := by
  have same := Cursor.options_of_inside h.single (Export.inside_of_mem_statements mem)
  cases h with
  | given h own => exact .inl (same.trans own)
  | loaded configured new visited load own => exact .inr ⟨configured, _, same.trans own⟩

/-- An edge that leads to a module says which file it is in. -/
theorem Leads.configured {edge : Cursor} {m : Path} (h : Leads r ws edge m) :
    edge.options.filename.isSome := by
  obtain ⟨source, -, located⟩ := h
  rw [Locator.locateFor] at located
  split at located
  · cases located
  · split at located
    · next filename root named rooted => rw [named]; rfl
    · cases located

theorem HasOptions.configured {edge : Cursor} {m : Path} (h : HasOptions o edge)
    (leads : Leads r ws edge m) : o.filename.isSome := by
  rcases h with same | ⟨configured, -⟩
  · rw [← same]
    exact leads.configured
  · exact configured

theorem HasOptions.forFile {edge : Cursor} (h : HasOptions o edge) (m : Path) :
    edge.options.forFile m = o.forFile m := by
  rcases h with same | ⟨-, m', same⟩
  · rw [same]
  · rw [same, Options.forFile_forFile]

/-! ## Configurations -/

variable (given o before) in
/-- Whether a node stands inside a tree that is searched. -/
def Provided (p : Progress) (found : Cursor) : Prop :=
  ∃ program, Home given o before p program ∧ Inside program found

variable (given o before) in
/-- Whether all that a frame has in it belongs to the search. -/
def TracedFrame (p : Progress) : Frame → Prop
  | .request edge _ => HasOptions o edge
  | .module program _ => Home given o before p program
  | .waiting program _ rest result =>
    Home given o before p program ∧ (∃ name, rest ⊆ Export.agenda program name) ∧
      ∀ found, result = some found → Provided given o before p found

variable (given o before) in
/-- Whether all that a configuration has in it belongs to the search. -/
structure Traced (c : Config) : Prop where
  frames : ∀ frame ∈ c.stack, TracedFrame given o before c.progress frame
  answer : ∀ found, c.answer = some found → Provided given o before c.progress found

variable (given o before) in
/-- Whether all that a turn ends with belongs to the search. -/
def TracedTurn (p : Progress) : Turn → Prop
  | .failed _ => True
  | .finished result => ∀ found, result = some found → Provided given o before p found
  | .asks edge _ waiting => HasOptions o edge ∧ TracedFrame given o before p waiting

theorem Provided.mono {found : Cursor} (h : Provided given o before p found)
    (acts : p.acts ⊆ q.acts) (visited : p.visited ⊆ q.visited) :
    Provided given o before q found := by
  obtain ⟨program, home, inside⟩ := h
  exact ⟨program, home.mono acts visited, inside⟩

theorem TracedFrame.mono {frame : Frame} (h : TracedFrame given o before p frame)
    (acts : p.acts ⊆ q.acts) (visited : p.visited ⊆ q.visited) :
    TracedFrame given o before q frame := by
  cases frame with
  | request edge name => exact h
  | module program name => exact Home.mono h acts visited
  | waiting program clears rest result =>
    obtain ⟨home, later, provided⟩ := h
    exact ⟨home.mono acts visited, later, fun found eq => (provided found eq).mono acts visited⟩

/-- The work on the agenda of a tree that is searched. -/
theorem tracedTurn_of_proceeds {program : Cursor} {name : String} {items : List Export.Item}
    {result : Option Cursor} {turn : Turn} (home : Home given o before p program)
    (sub : items ⊆ Export.agenda program name)
    (provided : ∀ found, result = some found → Provided given o before p found)
    (works : Proceeds program items result turn) : TracedTurn given o before p turn := by
  have settled {found : Option Cursor} (origin : found = result ∨ .settle found ∈ items)
      (c : Cursor) (h : found = some c) : Provided given o before p c := by
    subst h
    rcases origin with same | mem
    · exact provided c same.symm
    · exact ⟨program, home, Export.inside_of_localMatch (Export.settle_mem_agenda_iff.1 (sub mem))⟩
  cases works with
  | finished origin => exact settled origin
  | asks origin mem later =>
    obtain ⟨statement, -⟩ := Export.forwards_of_mem_agenda (sub mem)
    exact ⟨home.hasOptions statement, home, ⟨name, List.Subset.trans later sub⟩, settled origin⟩

/-- The turn of a frame that belongs to the search. -/
theorem TracedFrame.resumes (rooted : ws.grammars.Rooted) (grown : before ⊆ p.visited)
    {frame : Frame} {answer : Option Cursor} {turn : Turn} (h : TracedFrame given o before p frame)
    (provided : ∀ found, answer = some found → Provided given o before p found)
    (turns : Resumes r ws answer p frame (turn, q)) : TracedTurn given o before q turn := by
  cases turns with
  | idle events nothing =>
    intro found h
    cases h
  | failed failure => trivial
  | @entered edge name m program turn events leads fresh loads works =>
    have options : HasOptions o edge := h
    rw [Workspace.load_congr (options.forFile m)] at loads
    obtain ⟨own, single⟩ := Workspace.load_rooted rooted loads
    refine tracedTurn_of_proceeds ?_ (List.Subset.refl (Export.agenda program name)) (by simp) works
    refine .loaded (options.configured leads) (fun old => fresh (grown old)) List.mem_cons_self ?_
      own single
    rw [Workspace.load_congr (options.forFile m), Progress.acts_attempt, loads]
    exact List.mem_append_right _ List.mem_cons_self
  | begins works => exact tracedTurn_of_proceeds h (List.Subset.refl _) (by simp) works
  | @goesOn program clears rest result turn works =>
    obtain ⟨home, ⟨name, later⟩, earlier⟩ := h
    refine tracedTurn_of_proceeds home later ?_ works
    intro found absorbed
    cases clears with
    | true => exact provided found absorbed
    | false =>
      cases answer with
      | none => exact earlier found absorbed
      | some c => exact provided found absorbed

namespace Traced

/-- Every turn keeps to the search. -/
theorem step (rooted : ws.grammars.Rooted) {c c' : Config} (moves : Moves r ws c c')
    (grown : before ⊆ c.progress.visited) (h : Traced given o before c) :
    Traced given o before c' := by
  cases moves with
  | @finished frame below answer result p q turn =>
    obtain ⟨top, rest⟩ := List.forall_mem_cons.1 h.frames
    obtain ⟨acts, visited⟩ := turn.grows (by simp)
    exact ⟨fun frame mem => (rest frame mem).mono acts visited,
      top.resumes rooted grown h.answer turn⟩
  | @refused frame waiting below answer p q edge name turn full =>
    obtain ⟨top, rest⟩ := List.forall_mem_cons.1 h.frames
    obtain ⟨acts, visited⟩ := turn.grows (by simp)
    obtain ⟨-, waits⟩ := top.resumes rooted grown h.answer turn
    refine ⟨List.forall_mem_cons.2 ⟨?_, fun frame mem => ?_⟩, by simp⟩
    · exact waits.mono (List.Subset.refl _) (List.Subset.refl _)
    · exact (rest frame mem).mono acts visited
  | @pushed frame waiting below answer p q edge name turn room =>
    obtain ⟨top, rest⟩ := List.forall_mem_cons.1 h.frames
    obtain ⟨acts, visited⟩ := turn.grows (by simp)
    obtain ⟨asks, waits⟩ := top.resumes rooted grown h.answer turn
    have others : ∀ frame ∈ below, TracedFrame given o before q frame :=
      fun frame mem => (rest frame mem).mono acts visited
    exact ⟨List.forall_mem_cons.2 ⟨asks, List.forall_mem_cons.2 ⟨waits, others⟩⟩, by simp⟩

end Traced

/-- What a run finds stands inside a tree that is searched. -/
theorem provided_of_run (rooted : ws.grammars.Rooted) {first : Config} {found : Cursor}
    {q : Progress} (start : Traced given o before first)
    (grown : ∀ c, Reaches r ws first c → before ⊆ c.progress.visited)
    (h : run r ws first = (.ok (some found), q)) : Provided given o before q found := by
  obtain ⟨last, reaches, done⟩ := run_ends r ws first
  rw [h] at done
  obtain rfl := step_done_ok r ws done
  have traced : Traced given o before ⟨[], some found, q⟩ := by
    have invariant {c : Config} (reaches : Reaches r ws first c) : Traced given o before c := by
      induction reaches with
      | refl => exact start
      | tail earlier turn ih => exact ih.step rooted (step_more r ws turn) (grown _ earlier)
    exact invariant reaches
  exact traced.answer found rfl

end

/-! ## What is found -/

variable (r : Resolver) (ws : Workspace)

/-- Whether a node stands in a module that a search has added to those visited before, as it was
loaded, has the options of the search for that module, and leads on to where these lead. -/
def FromModule (o : Options) (before : List Path) (p : Progress) (found : Cursor) : Prop :=
  ∃ m program, m ∉ before ∧ m ∈ p.visited ∧ .load m (.ok program) ∈ p.acts ∧ Inside program found ∧
    found.options = o.forFile m ∧
    ∀ source, r.locator.locateFor ws source found.options = r.locator.locateFor ws source o

/-- What is provided stands in the given tree, or in a module. -/
theorem Provided.cases {given : Option Cursor} {o : Options} {before : List Path} {p : Progress}
    {found : Cursor} (h : Provided given o before p found) :
    (∃ program, given = some program ∧ Inside program found ∧ found.options = program.options) ∨
      FromModule r ws o before p found := by
  obtain ⟨program, home, inside⟩ := h
  have same := Cursor.options_of_inside home.single inside
  cases home with
  | given h own single => exact .inl ⟨program, h, inside, same⟩
  | @loaded m _ configured new visited load own single =>
    rw [own] at same
    refine .inr ⟨m, program, new, visited, load, inside, same, fun source => ?_⟩
    rw [same]
    exact r.locator.locateFor_forFile ws configured m source

variable {r ws}

/-- **What is found comes from a visited module, with the options of the search.** Suppose that in a
sound source only the root is a program. If a search from an edge finds a node, then the options of
the node name a file that the search has added to the visited ones, the node stands in the tree that
this file was loaded to, and but for the file its options are those of the edge; so every specifier
leads from there where it leads from the edge. The same holds of a search in a tree that is already
parsed, unless the node stands in that tree; then it has the very options of the tree. -/
theorem found_provenance (rooted : ws.grammars.Rooted) (before : List Path) (serial : Nat) :
    (∀ edge name found p,
      r.resolve ws edge name (.start before serial) = (.ok (some found), p) →
        FromModule r ws edge.options before p found) ∧
    ∀ program name found p, program.node.tree.NoProgramBelow →
      r.findExported ws program name (.start before serial) = (.ok (some found), p) →
        Inside program found ∧ found.options = program.options ∨
          FromModule r ws program.options before p found := by
  constructor
  · intro edge name found p h
    have start : Traced none edge.options before
        ⟨[.request edge name], none, .start before serial⟩ :=
      ⟨List.forall_mem_singleton.2 (.inl rfl), by simp⟩
    have found := provided_of_run rooted start (fun c reaches => (orderly_request reaches).grown) h
    rcases found.cases r ws with ⟨program, none, -⟩ | provided
    · cases none
    · exact provided
  · intro program name found p single h
    have start : Traced (some program) program.options before
        ⟨[.module program name], none, .start before serial⟩ :=
      ⟨List.forall_mem_singleton.2 (.given rfl rfl single), by simp⟩
    have found := provided_of_run rooted start (fun c reaches => (orderly_module reaches).grown) h
    rcases found.cases r ws with ⟨program, same, inside, options⟩ | provided
    · cases same
      exact .inl ⟨inside, options⟩
    · exact .inr provided

open TwoModules in
/-- What searches of two modules that refer to each other find. -/
theorem found_provenance_two_modules :
    workspace.grammars.Rooted ∧
    (∃ found p, resolver.resolve workspace (wildcard (secondProgram 0)) "x" (.start [] 0) =
        (.ok (some found), p) ∧
      FromModule resolver workspace (wildcard (secondProgram 0)).options [] p found) ∧
    ∃ found p, resolver.findExported workspace (firstProgram 0) "x" (.start [] 0) =
        (.ok (some found), p) ∧
      (Inside (firstProgram 0) found ∧ found.options = (firstProgram 0).options ∨
        FromModule resolver workspace (firstProgram 0).options [] p found) := by
  have firstSingle : firstTree.NoProgramBelow := by unfold Tree.NoProgramBelow; decide
  have secondSingle : secondTree.NoProgramBelow := by unfold Tree.NoProgramBelow; decide
  have rooted : workspace.grammars.Rooted := by
    intro dialect source sound
    show Tree.kind (if source.length = 17 then firstTree else secondTree) = _ ∧
      Tree.NoProgramBelow (if source.length = 17 then firstTree else secondTree)
    split
    · exact ⟨rfl, firstSingle⟩
    · exact ⟨rfl, secondSingle⟩
  obtain ⟨found, p, h⟩ := resolve_two_modules 0
  obtain ⟨found', p', h'⟩ := find_two_modules 0
  exact ⟨rooted, ⟨found, p, h, (found_provenance rooted [] 0).1 _ _ found p h⟩,
    found', p', h', (found_provenance rooted [] 0).2 _ _ found' p' firstSingle h'⟩

end ExportTrail.Search
