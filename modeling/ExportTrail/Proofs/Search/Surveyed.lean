import ExportTrail.Proofs.Parse.Options
import ExportTrail.Proofs.Search.Books
import ExportTrail.Proofs.Search.Reach
import ExportTrail.Proofs.Search.Survey

/-!
# Searches that have a survey

`Recursive.revisit` is the search that enters visited modules again. `Surveyed` says that a survey
is the one of an agenda. Both searches of the survey are then what the searches do: `revisit` finds
what `Survey.found` says and loads the modules of the survey (`forAll_revisit`), and the search
proper finds and visits what `Survey.pruned` says (`forAll_asker`), if the resolver allows for
chains as long as the survey is high. An agenda has one survey at most (`Surveyed.unique`).
-/

namespace ExportTrail

/-- Whether an item can make a result nothing. -/
def Export.Item.clears : Export.Item → Bool
  | .settle found => found.isNone
  | .ask _ _ clears => clears

namespace Search

namespace Recursive

variable (r : Resolver) (ws : Workspace)

/-- Answers a request as `request` does, but enters modules no matter whether they are visited. -/
def revisit (depth : Nat) : Ask := fun edge name p =>
  visit r ws (if (depth : Int) < r.maxDepth then revisit (depth + 1) else refuse r) edge name
    { p with visited := [] }
termination_by (r.maxDepth - depth).toNat
decreasing_by omega

/-- Answers the requests of the module at a place of the chain, in the same way. -/
def reasker (depth : Nat) : Ask :=
  if (depth : Int) < r.maxDepth then revisit r ws (depth + 1) else refuse r

variable {r ws}

theorem revisit_eq (depth : Nat) (edge : Cursor) (name : String) (p : Progress) :
    revisit r ws depth edge name p =
      visit r ws (reasker r ws depth) edge name { p with visited := [] } := by
  rw [revisit, reasker]

end Recursive

variable (r : Resolver) (ws : Workspace)

/-- Whether a survey is the one of an agenda, in a search with given options. -/
inductive Surveyed (o : Options) : List Export.Item → Survey → Prop
  | done : Surveyed o [] .done
  | settle {found : Option Cursor} {rest : List Export.Item} {w : Survey}
    (later : Surveyed o rest w) : Surveyed o (.settle found :: rest) (.settle found.isSome w)
  | nowhere {edge : Cursor} {name : String} {clears : Bool} {rest : List Export.Item} {w : Survey}
    (nothing : ∀ m, ¬ Leads r ws edge m) (locates : ∀ failure, ¬ Misleads r ws edge failure)
    (later : Surveyed o rest w) : Surveyed o (.ask edge name clears :: rest) (.nowhere clears w)
  /-- The module can be read with the options of the search, and each time its agenda has the same
  survey. -/
  | into {edge : Cursor} {name : String} {clears : Bool} {m : Path} {rest : List Export.Item}
    {inner w : Survey} (leads : Leads r ws edge m)
    (options : edge.options.forFile m = o.forFile m) (loads : ∃ program, Reads ws o m program)
    (inside : ∀ program, Reads ws o m program → Surveyed o (Export.agenda program name) inner)
    (later : Surveyed o rest w) :
    Surveyed o (.ask edge name clears :: rest) (.into m clears inner w)

variable {r ws}

section

variable {o : Options} {items : List Export.Item} {w w' : Survey}

/-- An agenda has one survey at most. -/
theorem Surveyed.unique (h : Surveyed r ws o items w) (h' : Surveyed r ws o items w') : w' = w := by
  induction h generalizing w' with
  | done =>
    cases h'
    rfl
  | settle later ih =>
    cases h' with
    | settle later' => rw [ih later']
  | nowhere nothing locates later ih =>
    cases h' with
    | nowhere _ _ later' => rw [ih later']
    | into leads _ _ _ _ => exact absurd leads (nothing _)
  | into leads options loads inside later ihInside ih =>
    cases h' with
    | nowhere nothing _ _ => exact absurd leads (nothing _)
    | into leads' _ _ inside' later' =>
      obtain rfl := leads.unique leads'
      obtain ⟨program, reads⟩ := loads
      rw [ihInside program reads (inside' program reads), ih later']

theorem misleads_renumber {k : Nat} {edge : Cursor} {failure : Failure} :
    Misleads r ws (edge.renumber k) failure ↔ Misleads r ws edge failure := by
  rw [Misleads, Misleads, source?_renumber, Cursor.options_renumber]

/-- The number of a parse makes no difference. -/
theorem Surveyed.renumber (h : Surveyed r ws o items w) (k : Nat) :
    Surveyed r ws o (items.map (Export.Item.renumber k)) w := by
  induction h with
  | done => exact .done
  | @settle found rest w later ih =>
    have same : (found.map (Cursor.renumber k)).isSome = found.isSome := Option.isSome_map
    rw [← same]
    exact .settle ih
  | nowhere nothing locates later ih =>
    exact .nowhere (fun m leads => nothing m (leads_renumber.1 leads))
      (fun failure misleads => locates failure (misleads_renumber.1 misleads)) ih
  | into leads options loads inside later ihInside ih =>
    refine .into (leads_renumber.2 leads) ?_ loads inside ih
    rw [Cursor.options_renumber]
    exact options

/-- Results can be lost on an agenda if and only if its survey says so. -/
theorem Surveyed.clears_eq (h : Surveyed r ws o items w) :
    w.clears = items.any Export.Item.clears := by
  induction h with
  | done => rfl
  | @settle found rest w later ih =>
    rw [Survey.clears, ih, List.any_cons]
    cases found <;> rfl
  | nowhere _ _ later ih => rw [Survey.clears, ih, List.any_cons, Export.Item.clears]
  | into _ _ _ _ later _ ih => rw [Survey.clears, ih, List.any_cons, Export.Item.clears]

end

namespace Recursive

variable {o : Options} {items : List Export.Item} {w : Survey}

theorem isSome_absorb (clears : Bool) (result answer : Option Cursor) :
    (absorb clears result answer).isSome =
      Survey.absorb clears result.isSome answer.isSome := by
  cases clears <;> cases answer <;> rfl

/-- The search of a module that is entered is the work on an agenda of which the survey is known. -/
theorem visit_surveyed {edge : Cursor} {m : Path} {p : Progress} (ask : Ask) (name : String)
    (leads : Leads r ws edge m) (options : edge.options.forFile m = o.forFile m)
    (readable : ∃ program, Reads ws o m program) (new : m ∉ p.visited) :
    ∃ program q, Reads ws o m program ∧ q.visited = m :: p.visited ∧
      loads q.acts = loads p.acts ++ [m] ∧
      visit r ws ask edge name p = forAll (perform ask) (Export.agenda program name) none q := by
  obtain ⟨program, k, loaded⟩ := readable
  have again := Workspace.load_renumber (k := p.serial) loaded
  rw [← Workspace.load_congr options] at again
  obtain ⟨q, visited, acts, eq⟩ := visit_of_leads ask name leads new again
  refine ⟨program.renumber p.serial, q, ⟨p.serial, ?_⟩, visited, ?_, eq.trans (module_eq ..)⟩
  · rw [← Workspace.load_congr options]
    exact again
  · rw [acts, loads_append]
    rfl

/-- A search that enters modules again finds what the survey says, and loads its modules. -/
theorem forAll_revisit (h : Surveyed r ws o items w) (depth : Nat)
    (room : ((depth + w.height : Nat) : Int) ≤ r.maxDepth) (result : Option Cursor) (p : Progress) :
    ∃ found q, forAll (perform (reasker r ws depth)) items result p = (.ok found, q) ∧
      found.isSome = w.found result.isSome ∧ loads q.acts = loads p.acts ++ w.modules := by
  induction h generalizing depth result p with
  | done => exact ⟨result, p, rfl, rfl, (List.append_nil _).symm⟩
  | settle later ih => exact ih depth room _ p
  | @nowhere edge name clears rest w nothing locates later ih =>
    have idle : ∃ q, reasker r ws depth edge name p = (.ok none, q) ∧ q.acts = p.acts := by
      rw [reasker]
      split
      · obtain ⟨events, eq⟩ := visit_of_nowhere (reasker r ws (depth + 1)) name
          { p with visited := [] } nothing locates
        exact ⟨_, (revisit_eq ..).trans eq, rfl⟩
      · exact ⟨_, rfl, rfl⟩
    obtain ⟨q, eq, acts⟩ := idle
    obtain ⟨found, q', eq', isSome, loaded⟩ := ih depth room (absorb clears result none) q
    refine ⟨found, q', ?_, ?_, ?_⟩
    · rw [forAll, perform, eq]
      exact eq'
    · rw [isSome, isSome_absorb]
      rfl
    · rw [loaded, acts]
      rfl
  | @into edge name clears m rest inner w leads options readable inside later ihInside ih =>
    rw [Survey.height] at room
    obtain ⟨program, q, reads, -, first, eq⟩ := visit_surveyed (p := { p with visited := [] })
      (reasker r ws (depth + 1)) name leads options readable List.not_mem_nil
    obtain ⟨answer, q₁, eq₁, answered, loaded₁⟩ :=
      ihInside program reads (depth + 1) (by omega) none q
    have asked : reasker r ws depth edge name p = (.ok answer, q₁) := by
      rw [reasker, if_pos (by omega), revisit_eq, eq, eq₁]
    obtain ⟨found, q', eq', isSome, loaded⟩ := ih depth (by omega)
      (absorb clears result answer) q₁
    refine ⟨found, q', ?_, ?_, ?_⟩
    · rw [forAll, perform, asked]
      exact eq'
    · rw [isSome, isSome_absorb, answered]
      rfl
    · rw [loaded, loaded₁, first, Survey.modules]
      simp

/-- The search proper finds and visits what the survey says of a search that prunes. -/
theorem forAll_asker (h : Surveyed r ws o items w) (depth : Nat)
    (room : ((depth + w.height : Nat) : Int) ≤ r.maxDepth) (result : Option Cursor) (p : Progress) :
    ∃ found q, forAll (perform (asker r ws depth)) items result p = (.ok found, q) ∧
      w.pruned p.visited result.isSome = (found.isSome, q.visited) := by
  induction h generalizing depth result p with
  | done => exact ⟨result, p, rfl, rfl⟩
  | settle later ih => exact ih depth room _ p
  | @nowhere edge name clears rest w nothing locates later ih =>
    have idle : ∃ q, asker r ws depth edge name p = (.ok none, q) ∧ q.visited = p.visited := by
      rw [asker, request_eq]
      split
      · obtain ⟨events, eq⟩ := visit_of_nowhere (asker r ws (depth + 1)) name p nothing locates
        exact ⟨_, eq, rfl⟩
      · exact ⟨_, rfl, rfl⟩
    obtain ⟨q, eq, visited⟩ := idle
    obtain ⟨found, q', eq', pruned⟩ := ih depth room (absorb clears result none) q
    refine ⟨found, q', ?_, ?_⟩
    · rw [forAll, perform, eq]
      exact eq'
    · rw [← pruned, visited, isSome_absorb]
      rfl
  | @into edge name clears m rest inner w leads options readable inside later ihInside ih =>
    rw [Survey.height] at room
    by_cases old : m ∈ p.visited
    · obtain ⟨events, eq⟩ := visit_of_visited (asker r ws (depth + 1)) name leads old
      have asked : asker r ws depth edge name p = (.ok none, p.record events) := by
        rw [asker, if_pos (by omega), request_eq, eq]
      obtain ⟨found, q', eq', pruned⟩ := ih depth (by omega) (absorb clears result none)
        (p.record events)
      refine ⟨found, q', ?_, ?_⟩
      · rw [forAll, perform, asked]
        exact eq'
      · rw [Survey.pruned_old old, ← pruned, isSome_absorb]
        rfl
    · obtain ⟨program, q, reads, visited, -, eq⟩ := visit_surveyed
        (asker r ws (depth + 1)) name leads options readable old
      obtain ⟨answer, q₁, eq₁, pruned₁⟩ :=
        ihInside program reads (depth + 1) (by omega) none q
      have asked : asker r ws depth edge name p = (.ok answer, q₁) := by
        rw [asker, if_pos (by omega), request_eq, eq, eq₁]
      obtain ⟨found, q', eq', pruned⟩ := ih depth (by omega)
        (absorb clears result answer) q₁
      rw [visited, Option.isSome_none] at pruned₁
      refine ⟨found, q', ?_, ?_⟩
      · rw [forAll, perform, asked]
        exact eq'
      · rw [Survey.pruned_new old, pruned₁, ← pruned, isSome_absorb]

end Recursive

open Recursive

/-- Both searches from an edge, as the survey of the request has them. -/
theorem resolve_revisit_surveyed {o : Options} {edge : Cursor} {name : String} {w : Survey}
    (h : Surveyed r ws o [.ask edge name false] w) (positive : 0 < r.maxDepth)
    (room : (w.height : Int) ≤ r.maxDepth) (serial : Nat) :
    ∃ found p found' p', r.resolve ws edge name (.start [] serial) = (.ok found, p) ∧
      revisit r ws 1 edge name (.start [] serial) = (.ok found', p') ∧
      w.pruned [] false = (found.isSome, p.visited) ∧ found'.isSome = w.found false ∧
      loads p'.acts = w.modules := by
  have kept (answer : Option Cursor) : absorb false none answer = answer := by
    cases answer <;> rfl
  have top : ((0 + w.height : Nat) : Int) ≤ r.maxDepth := by simpa using room
  obtain ⟨found, p, eq, pruned⟩ := forAll_asker h 0 top none (.start [] serial)
  obtain ⟨found', p', eq', isSome, loaded⟩ := forAll_revisit h 0 top none (.start [] serial)
  refine ⟨found, p, found', p', ?_, ?_, pruned, isSome, loaded⟩
  · rw [forAll_singleton, perform, asker, if_pos (by simpa using positive)] at eq
    rw [resolve_eq, Recursive.resolve]
    rcases answered : request r ws 1 edge name (.start [] serial) with ⟨e | answer, q⟩
    · simp [answered] at eq
    · simpa [answered, kept] using eq
  · rw [forAll_singleton, perform, reasker, if_pos (by simpa using positive)] at eq'
    rcases answered : revisit r ws 1 edge name (.start [] serial) with ⟨e | answer, q⟩
    · simp [answered] at eq'
    · simpa [answered, kept] using eq'

end Search

end ExportTrail
