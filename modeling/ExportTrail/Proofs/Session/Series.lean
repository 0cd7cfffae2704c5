import ExportTrail.Proofs.Search.Books
import ExportTrail.Proofs.Search.Visit

/-!
# Series of requests

Requests that are answered one after the other may share the set of visited modules
(`Session.searchAll`). The books are kept over the whole series (`series_books`): whatever the
requests are and however they end, a module is loaded once at most, after it was added to the set,
and the set grows by just the modules that are loaded.

A request that stops before it loads a module (`Stopped`), or is refused because its chain is too
long, leaves the set as it is (`resolve_stopped`, `step_stopped`, `step_refused`).
-/

namespace ExportTrail

namespace Session

/-- What is searched for, and the resolver to do it with, if one is given. -/
structure Demand where
  query : Query
  resolver : Option Resolver

/-- Answers requests one after the other. Each starts with the modules that are visited after the one
before. Gives the answers, the modules visited in the end and the session that is left. -/
def searchAll (s : Session) (visited : List Path) :
    List Demand → List (Search.Outcome × Search.Progress) × List Path × Session
  | [] => ([], visited, s)
  | d :: ds =>
    let (answer, s) := s.search d.resolver d.query visited
    let (answers, visited, s) := s.searchAll answer.2.visited ds
    (answer :: answers, visited, s)

/-- What was done to enter modules by requests with the given answers. -/
def actsOf (answers : List (Search.Outcome × Search.Progress)) : List Search.Act :=
  answers.flatMap fun answer => answer.2.acts

theorem useDefault_workspace (s : Session) : s.useDefault.2.workspace = s.workspace := by
  unfold useDefault
  split
  · rfl
  · split <;> rfl

open Search

/-- A request of a session keeps the books, also if there is no resolver for it. -/
theorem search_books {s s' : Session} {d : Demand} {visited : List Path}
    {answer : Search.Outcome × Search.Progress}
    (h : s.search d.resolver d.query visited = (answer, s')) :
    s'.workspace = s.workspace ∧ Books s.workspace visited answer.2.visited answer.2.acts ∧
      Ending answer.1 answer.2.acts := by
  have answered (r : Resolver) (ws : Workspace) :
      let found := d.query.run r ws (Progress.start visited s.serial)
      Books ws visited found.2.visited found.2.acts ∧ Ending found.1 found.2.acts := by
    obtain ⟨acts, keeps, ending⟩ := query_books r ws d.query (.start visited s.serial)
    obtain rfl : _ = acts := keeps.recorded
    exact ⟨keeps.books, ending⟩
  unfold search at h
  cases given : d.resolver with
  | some r =>
    rw [given] at h
    cases h
    exact ⟨rfl, answered r s.workspace⟩
  | none =>
    rw [given] at h
    dsimp only at h
    split at h
    · have same := useDefault_workspace s
      split at h
      · next made =>
        rw [made] at same
        cases h
        exact ⟨same, .refl visited, .clean clean_nil⟩
      · next r s₁ made =>
        rw [made] at same
        cases h
        have keeps := answered r s₁.workspace
        rw [show s₁.workspace = s.workspace from same] at keeps ⊢
        exact ⟨rfl, keeps⟩
    · cases h
      exact ⟨rfl, .refl visited, .clean clean_nil⟩

/-- The visited modules only grow from request to request, and every request ends as its own loads
say. -/
theorem series_books (s : Session) (visited : List Path) (ds : List Demand) :
    Books s.workspace visited (s.searchAll visited ds).2.1 (actsOf (s.searchAll visited ds).1) ∧
      (visited :: (s.searchAll visited ds).1.map fun answer => answer.2.visited).Pairwise
        (· ⊆ ·) ∧
      ∀ answer ∈ (s.searchAll visited ds).1, Ending answer.1 answer.2.acts := by
  induction ds generalizing s visited with
  | nil => exact ⟨.refl visited, List.pairwise_singleton .., by simp [searchAll]⟩
  | cons d ds ih =>
    rw [searchAll]
    rcases h : s.search d.resolver d.query visited with ⟨answer, s'⟩
    obtain ⟨same, books, ending⟩ := search_books h
    obtain ⟨rest, growing, endings⟩ := ih s' answer.2.visited
    rw [same] at rest
    refine ⟨books.trans rest, ?_, ?_⟩
    · refine List.pairwise_cons.2 ⟨?_, growing⟩
      intro later mem
      rcases List.mem_cons.1 mem with rfl | mem
      · exact books.subset
      · exact List.Subset.trans books.subset (List.rel_of_pairwise_cons growing mem)
    · intro a mem
      rcases List.mem_cons.1 mem with rfl | mem
      · exact ending
      · exact endings a mem

end Session

namespace Search

/-! ## Requests that stop -/

/-- The reasons for which a request stops before a module is loaded. -/
inductive Stopped (r : Resolver) (ws : Workspace) (edge : Cursor) (visited : List Path) : Prop
  /-- The edge has no source. -/
  | unsourced (h : source? edge = none)
  /-- The source is a specifier that is never followed. -/
  | ignored {source : String} (h : source? edge = some source)
    (ignored : r.locator.isIgnored source = true)
  /-- The options of the edge lack a file name or a root. -/
  | unconfigured (h : edge.options.filename = none ∨ edge.options.root = none)
  /-- No file belongs to the source below the root. -/
  | unresolvable {source : String} {root base : Path} (h : source? edge = some source)
    (rooted : edge.options.root = some root) (canonical : ws.world.canonical ws.cwd root = .ok base)
    (nothing : (r.locator.find? ws source base).outcome = .ok none)
  /-- The module was visited before. -/
  | visited {m : Path} (leads : Leads r ws edge m) (old : m ∈ visited)

variable {r : Resolver} {ws : Workspace}

/-- A source leads nowhere if it is ignored, if the options do not say from where, or if there is no
such file. -/
theorem locateFor_stopped {edge : Cursor} {visited : List Path} {source : String}
    (h : source? edge = some source) (stopped : Stopped r ws edge visited) :
    (r.locator.locateFor ws source edge.options).outcome = .ok none ∨
      ∃ m ∈ visited, (r.locator.locateFor ws source edge.options).outcome = .ok (some m) := by
  cases stopped with
  | unsourced none => simp [h] at none
  | ignored h' ignored =>
    obtain rfl := Option.some.inj (h.symm.trans h')
    exact .inl (by rw [Locator.locateFor, if_pos ignored])
  | unconfigured lacking =>
    left
    rw [Locator.locateFor]
    split
    · rfl
    · rcases lacking with none | none
      · rw [none]
      · rw [none]; cases edge.options.filename <;> rfl
  | unresolvable h' rooted canonical nothing =>
    obtain rfl := Option.some.inj (h.symm.trans h')
    left
    rw [Locator.locateFor]
    split
    · rfl
    · rw [rooted]
      cases edge.options.filename with
      | none => rfl
      | some filename => simp [canonical, nothing]
  | visited leads old =>
    obtain ⟨source', h', located⟩ := leads
    obtain rfl := Option.some.inj (h.symm.trans h')
    exact .inr ⟨_, old, located⟩

/-- A request that stops has the answer nothing, and only events are recorded. -/
theorem enter_stopped {edge : Cursor} {p : Progress} (stopped : Stopped r ws edge p.visited) :
    ∃ events, enter r ws edge p = (.ok none, p.record events) := by
  rw [enter]
  split
  · exact ⟨[], by rw [Progress.record_nil]⟩
  · next source h =>
    rcases locateFor_stopped h stopped with nowhere | ⟨m, old, located⟩
    · simp only [nowhere]
      exact ⟨_, rfl⟩
    · simp only [located, if_pos old]
      exact ⟨_, rfl⟩

/-- A request that stops is a turn that answers nothing and leaves the visited modules alone. -/
theorem step_stopped {edge : Cursor} {name : String} {below : List Frame} {answer : Option Cursor}
    {p : Progress} (stopped : Stopped r ws edge p.visited) :
    ∃ events, step r ws ⟨.request edge name :: below, answer, p⟩ =
      .more ⟨below, none, p.record events⟩ := by
  obtain ⟨events, h⟩ := enter_stopped stopped
  exact ⟨events, by rw [step]; simp only [resume, h, advance]⟩

theorem resolve_stopped {edge : Cursor} {name : String} {p : Progress}
    (stopped : Stopped r ws edge p.visited) :
    ∃ events, r.resolve ws edge name p = (.ok none, p.record events) := by
  obtain ⟨events, h⟩ := enter_stopped stopped
  exact ⟨events, by rw [resolve_eq, Recursive.resolve, Recursive.request_eq, Recursive.visit, h]⟩

/-- A request that is refused is answered by nothing, and the visited modules are left alone. -/
theorem step_refused {frame waiting : Frame} {below : List Frame} {edge : Cursor} {name : String}
    {answer : Option Cursor} {p q : Progress}
    (asks : resume r ws frame answer p = (.asks edge name waiting, q))
    (full : r.maxDepth ≤ ((below.length + 1 : Nat) : Int)) :
    step r ws ⟨frame :: below, answer, p⟩ =
      .more ⟨waiting :: below, none, q.record [.tooDeep r.maxDepth name]⟩ := by
  rw [step]
  simp only [asks, advance, if_pos full]

/-- **Searches keep the books of the visited modules.** Over every series of requests, whatever their
edges, names and resolvers are and however they end, modules are only added to the visited ones, each
is added before it is loaded, and those added are those loaded, each of them once and none of them
visited at the start. In each request a load that fails is the last act, and its failure is the
outcome. A request that stops before its module is loaded, on its own or in the course of another one,
and a request that is refused because the chain is too long, have the answer nothing, and only events
are recorded. -/
theorem searches_keep_books :
    (∀ (s : Session) (visited : List Path) (ds : List Session.Demand),
      Books s.workspace visited (s.searchAll visited ds).2.1
          (Session.actsOf (s.searchAll visited ds).1) ∧
        (visited :: (s.searchAll visited ds).1.map fun answer => answer.2.visited).Pairwise
          (· ⊆ ·) ∧
        ∀ answer ∈ (s.searchAll visited ds).1, Ending answer.1 answer.2.acts) ∧
    (∀ (r : Resolver) (ws : Workspace) (edge : Cursor) (name : String) (p : Progress),
      Stopped r ws edge p.visited →
        ∃ events, r.resolve ws edge name p = (.ok none, p.record events)) ∧
    (∀ (r : Resolver) (ws : Workspace) (edge : Cursor) (name : String) (below : List Frame)
        (answer : Option Cursor) (p : Progress), Stopped r ws edge p.visited →
        ∃ events, step r ws ⟨.request edge name :: below, answer, p⟩ =
          .more ⟨below, none, p.record events⟩) ∧
    ∀ (r : Resolver) (ws : Workspace) (frame waiting : Frame) (below : List Frame) (edge : Cursor)
      (name : String) (answer : Option Cursor) (p q : Progress),
      resume r ws frame answer p = (.asks edge name waiting, q) →
      r.maxDepth ≤ ((below.length + 1 : Nat) : Int) →
        step r ws ⟨frame :: below, answer, p⟩ =
          .more ⟨waiting :: below, none, q.record [.tooDeep r.maxDepth name]⟩ := by
  refine ⟨Session.series_books, ?_, ?_, ?_⟩
  · intro r ws edge name p stopped
    exact resolve_stopped stopped
  · intro r ws edge name below answer p stopped
    exact step_stopped stopped
  · intro r ws frame waiting below edge name answer p q asks full
    exact step_refused asks full

open TwoModules in
/-- A request for the first of two modules, which was visited before. -/
theorem searches_keep_books_two_modules :
    ∃ events, resolver.resolve workspace (wildcard (secondProgram 0)) "x" (.start [first] 0) =
      (.ok none, (Progress.start [first] 0).record events) :=
  searches_keep_books.2.1 _ _ _ _ _ (.visited (leads_second 0) List.mem_cons_self)

end Search

end ExportTrail
