import ExportTrail.Proofs.Export.Contribution
import ExportTrail.Proofs.Search.Revisit

/-!
# The dialogue of one module

The search of one module is a dialogue: the module asks for names behind its statements, one after
the other, and whoever runs the search answers each request, after any progress elsewhere
(`Dialogue`). What is asked does not depend on the answers, and no answer ends the search early; the
result is the last of the outcomes that the statements come to (`dialogue_iff`).
-/

namespace ExportTrail.Search

variable (r : Resolver) (ws : Workspace)

/-- A request and its answer. -/
abbrev Exchange := Export.Request × Option Cursor

/-- What can happen from a turn of a frame on until the frame is finished: it makes these requests,
each answered like this, after any progress elsewhere, and it comes to this result. -/
inductive Dialogue : Turn × Progress → List Exchange → Option Cursor → Prop
  | finished (result : Option Cursor) (p : Progress) : Dialogue (.finished result, p) [] result
  | asks {edge : Cursor} {name : String} {waiting : Frame} {p : Progress} (answer : Option Cursor)
    (elsewhere : Progress) {later : List Exchange} {result : Option Cursor}
    (goesOn : Dialogue (resume r ws waiting answer elsewhere) later result) :
    Dialogue (.asks edge name waiting, p) (((edge, name), answer) :: later) result

/-- Whether a frame begins to search a module in its turn. -/
inductive Starts (program : Cursor) (name : String) : Frame → Progress → Prop
  /-- The module was given. -/
  | given (p : Progress) : Starts program name (.module program name) p
  /-- The module is entered now. -/
  | entered {edge : Cursor} {p q : Progress}
    (enters : enter r ws edge p = (.ok (some program), q)) :
    Starts program name (.request edge name) p

variable {r ws}

theorem dialogue_finished_iff {result found : Option Cursor} {p : Progress}
    {exchanges : List Exchange} :
    Dialogue r ws (.finished result, p) exchanges found ↔ exchanges = [] ∧ found = result := by
  constructor
  · rintro ⟨⟩
    exact ⟨rfl, rfl⟩
  · rintro ⟨rfl, rfl⟩
    exact .finished found p

theorem dialogue_asks_iff {edge : Cursor} {name : String} {waiting : Frame} {found : Option Cursor}
    {p : Progress} {exchanges : List Exchange} :
    Dialogue r ws (.asks edge name waiting, p) exchanges found ↔
      ∃ answer elsewhere later, exchanges = ((edge, name), answer) :: later ∧
        Dialogue r ws (resume r ws waiting answer elsewhere) later found := by
  constructor
  · rintro (_ | ⟨answer, elsewhere, goesOn⟩)
    exact ⟨answer, elsewhere, _, rfl, goesOn⟩
  · rintro ⟨answer, elsewhere, later, rfl, goesOn⟩
    exact .asks answer elsewhere goesOn

/-- An answer takes the place of the result so far if it counts as a result. -/
theorem absorb_eq (clears : Bool) (result answer : Option Cursor) :
    absorb clears result answer =
      (if clears then [answer] else [answer].filter Option.isSome).getLast?.getD result := by
  cases clears <;> cases answer <;> rfl

/-- The work on an agenda makes the requests of its items, and comes to the last of their
results. -/
theorem dialogue_proceed_iff {program : Cursor} {items : List Export.Item}
    {result found : Option Cursor} {p : Progress} {exchanges : List Exchange} :
    Dialogue r ws (proceed program items result, p) exchanges found ↔
      exchanges.map Prod.fst = Export.asked items ∧
        found = (Export.outcomesAlong items (exchanges.map Prod.snd)).getLast?.getD result := by
  induction items generalizing result p exchanges with
  | nil =>
    rw [proceed, dialogue_finished_iff]
    simp [Export.outcomesAlong]
  | cons item rest ih =>
    cases item with
    | settle settled =>
      rw [proceed, ih, Export.asked_settle]
      simp [Export.outcomesAlong, List.getLast?_cons]
    | ask edge name clears =>
      have along (answer : Option Cursor) (later : List (Option Cursor)) :
          (Export.outcomesAlong (.ask edge name clears :: rest) (answer :: later)).getLast?.getD
              result =
            (Export.outcomesAlong rest later).getLast?.getD (absorb clears result answer) := by
        rw [Export.outcomesAlong, List.getLast?_append, Option.getD_or, absorb_eq]
      rw [proceed, dialogue_asks_iff, Export.asked_ask]
      simp only [resume, ih]
      constructor
      · rintro ⟨answer, elsewhere, later, rfl, requests, rfl⟩
        exact ⟨by rw [List.map_cons, requests], (along answer _).symm⟩
      · rintro ⟨requests, rfl⟩
        obtain ⟨exchange, later, rfl, first, requests⟩ := List.map_eq_cons_iff.1 requests
        exact ⟨exchange.2, p, later, by rw [← first], requests, along exchange.2 _⟩

/-- A frame that begins to search a module makes the turn that the search of the module begins with,
or makes it after other progress. -/
theorem Starts.resume_eq {program : Cursor} {name : String} {frame : Frame} {p : Progress}
    (h : Starts r ws program name frame p) (answer : Option Cursor) :
    ∃ q, resume r ws frame answer p = (proceed program (Export.agenda program name) none, q) := by
  cases h with
  | given p => exact ⟨p, rfl⟩
  | entered enters => exact ⟨_, by rw [resume, enters]⟩

/-- **What one module contributes.** For every module and name, and whatever answers the module's
requests are given, the search of the module asks for exactly its `requests`, in this order, and
does not stop before the last of them; its result is the last of the outcomes that the statements
come to, in order, or nothing if there is none. The requests are in the order of the source, as are
the local names that one statement asks for; and what a declaration gives to a name is the
declaration itself if the name is its own, and otherwise, if it has no name of its own, the
initialiser of its last declarator that gives the name one. -/
theorem dialogue_iff (program : Cursor) (name : String) :
    (∀ r ws frame p, Starts r ws program name frame p →
      ∀ (answer : Option Cursor) (exchanges : List Exchange) (result : Option Cursor),
        Dialogue r ws (resume r ws frame answer p) exchanges result ↔
          exchanges.map Prod.fst = Export.requests program name ∧
            result = (Export.outcomes name (Export.statements program)
              (exchanges.map Prod.snd)).getLast?.getD none) ∧
      (Export.requests program name).Pairwise
        (fun a b => a.1 = b.1 ∨ a.1.node.Precedes b.1.node) ∧
      (∀ s, (Export.localNames name s).Pairwise fun a b => a.node.Precedes b.node) ∧
      ∀ declaration found, Export.declared? declaration name = some found ↔
        Export.Declares declaration name found := by
  refine ⟨fun r ws frame p starts answer exchanges result => ?_,
    Export.pairwise_requests program name, Export.pairwise_localNames name,
    fun declaration found => Export.declared?_eq_some_iff⟩
  obtain ⟨q, turn⟩ := starts.resume_eq answer
  obtain ⟨asked, results⟩ := Export.agenda_eq program name
  rw [turn, dialogue_proceed_iff, asked]
  refine and_congr_right fun requests => ?_
  have each : (exchanges.map Prod.snd).length = (Export.requests program name).length := by
    rw [← requests, List.length_map, List.length_map]
  rw [results _ each]

open TwoModules (wildcard) in
open SharedModule in
/-- A module that passes everything on, and then the name once more: both are asked for, and nothing
as the second answer clears what the first one found. -/
theorem dialogue_iff_shared_module :
    let program := passingProgram 0
    Dialogue resolver workspace
      (resume resolver workspace (.module program "x") none (.start [] 0))
      [((wildcard program, "x"), some (definingProgram 0)), ((passed program, "x"), none)]
      none := by
  intro program
  refine ((dialogue_iff program "x").1 resolver workspace _ _ (.given _) none _ _).2 ⟨?_, ?_⟩
  · rw [Export.requests, statements_passing]
    cbv
  · rw [statements_passing]
    cbv

end ExportTrail.Search
