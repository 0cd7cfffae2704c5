import ExportTrail.Proofs.Search.Reach
import ExportTrail.Proofs.Search.Route

/-!
# Searches side by side

The modules that are visited before a search starts have no influence on it, as far as it does not
locate them. Two searches that only differ in such modules, and in the numbers of their parses, go
on side by side (`Beside`), turn by turn (`step_beside`), and end alike (`run_beside`).

So it is all the same whether a module is asked through an edge that leads to it, or is opened and
asked itself, if the search does not come back to it (`searches_side_by_side`).
-/

namespace ExportTrail

namespace Cursor

@[simp] theorem renumber_renumber (k k' : Nat) (c : Cursor) :
    (c.renumber k).renumber k' = c.renumber k' := by
  induction c with
  | top n o => rfl
  | via p n ih => rw [renumber, renumber, ih]; rfl

/-- Whether two cursors are the same but for the numbers of their parses. -/
def Twin (a b : Cursor) : Prop := a.renumber 0 = b.renumber 0

theorem Twin.options {a b : Cursor} (h : Twin a b) : a.options = b.options := by
  rw [← options_renumber 0 a, h, options_renumber]

end Cursor

namespace Search

open Cursor (Twin)

theorem source?_twin {a b : Cursor} (h : Twin a b) : source? a = source? b := by
  rw [← source?_renumber 0 a, h, source?_renumber]

/-- The same outcome of a search with all parses numbered alike. -/
def Outcome.renumber (k : Nat) (found : Outcome) : Outcome :=
  found.map (Option.map (Cursor.renumber k))

/-- Whether two frames are the same but for the numbers of parses. -/
inductive Frame.Twin : Frame → Frame → Prop
  | request {edge edge' : Cursor} (name : String) (edges : Cursor.Twin edge edge') :
    Twin (.request edge name) (.request edge' name)
  | module {program program' : Cursor} (name : String) (programs : Cursor.Twin program program') :
    Twin (.module program name) (.module program' name)
  | waiting {program program' : Cursor} (clears : Bool) {rest rest' : List Export.Item}
    {result result' : Option Cursor} (programs : Cursor.Twin program program')
    (items : rest.map (Export.Item.renumber 0) = rest'.map (Export.Item.renumber 0))
    (results : result.map (Cursor.renumber 0) = result'.map (Cursor.renumber 0)) :
    Twin (.waiting program clears rest result) (.waiting program' clears rest' result')

theorem Frame.Twin.refl (frame : Frame) : frame.Twin frame := by
  cases frame with
  | request edge name => exact .request name rfl
  | module program name => exact .module name rfl
  | waiting program clears rest result => exact .waiting clears rfl rfl rfl

/-- Whether two turns end the same but for the numbers of parses. -/
inductive Turn.Twin : Turn → Turn → Prop
  | failed (e : Failure) : Twin (.failed e) (.failed e)
  | finished {result result' : Option Cursor}
    (results : result.map (Cursor.renumber 0) = result'.map (Cursor.renumber 0)) :
    Twin (.finished result) (.finished result')
  | asks {edge edge' : Cursor} (name : String) {waiting waiting' : Frame}
    (edges : Cursor.Twin edge edge') (frames : waiting.Twin waiting') :
    Twin (.asks edge name waiting) (.asks edge' name waiting')

theorem proceed_twin {program program' : Cursor} (programs : Cursor.Twin program program')
    {items items' : List Export.Item} {result result' : Option Cursor}
    (agendas : items.map (Export.Item.renumber 0) = items'.map (Export.Item.renumber 0))
    (results : result.map (Cursor.renumber 0) = result'.map (Cursor.renumber 0)) :
    (proceed program items result).Twin (proceed program' items' result') := by
  induction items generalizing items' result result' with
  | nil =>
    obtain rfl : items' = [] := List.map_eq_nil_iff.1 agendas.symm
    exact .finished results
  | cons item items ih =>
    cases items' with
    | nil => cases agendas
    | cons item' items' =>
      obtain ⟨first, later⟩ := List.cons.inj agendas
      cases item with
      | settle settled =>
        cases item' with
        | settle settled' =>
          rw [proceed, proceed]
          exact ih later (Export.Item.settle.inj first)
        | ask => cases first
      | ask edge name clears =>
        cases item' with
        | settle => cases first
        | ask edge' name' clears' =>
          obtain ⟨edges, rfl, rfl⟩ := Export.Item.ask.inj first
          exact .asks name edges (.waiting clears programs later results)

/-- The searches of the same module read twice begin alike. -/
theorem begin_twin {program program' : Cursor} (programs : Cursor.Twin program program')
    (name : String) :
    (proceed program (Export.agenda program name) none).Twin
      (proceed program' (Export.agenda program' name) none) := by
  refine proceed_twin programs ?_ rfl
  rw [← Export.agenda_renumber, ← Export.agenda_renumber, programs]

theorem absorb_twin (clears : Bool) {result result' answer answer' : Option Cursor}
    (results : result.map (Cursor.renumber 0) = result'.map (Cursor.renumber 0))
    (answers : answer.map (Cursor.renumber 0) = answer'.map (Cursor.renumber 0)) :
    (absorb clears result answer).map (Cursor.renumber 0) =
      (absorb clears result' answer').map (Cursor.renumber 0) := by
  have none_iff : answer = none ↔ answer' = none := by
    rw [← Option.map_eq_none_iff, answers, Option.map_eq_none_iff]
  cases clears with
  | true => exact answers
  | false =>
    cases answer with
    | none =>
      obtain rfl := none_iff.1 rfl
      exact results
    | some c =>
      cases answer' with
      | none => cases none_iff.2 rfl
      | some c' => exact answers

/-! ## Turns side by side -/

section

variable {r : Resolver} {ws : Workspace} {before before' extra : List Path}

variable (before before') in
/-- Whether two searches have added the same modules to the ones visited before them. -/
def SameAdded (p q : Progress) : Prop :=
  ∃ new, p.visited = new ++ before ∧ q.visited = new ++ before'

theorem SameAdded.mem_iff (more : ∀ m, m ∈ before' ↔ m ∈ before ∨ m ∈ extra) {p q : Progress}
    (h : SameAdded before before' p q) {m : Path} (other : m ∉ extra) :
    m ∈ q.visited ↔ m ∈ p.visited := by
  obtain ⟨new, ofp, ofq⟩ := h
  rw [ofp, ofq, List.mem_append, List.mem_append, more, or_iff_left other]

/-- Entering the module behind an edge comes to the same if it is none of the modules that only one
of the searches counts as visited. -/
theorem enter_twin (more : ∀ m, m ∈ before' ↔ m ∈ before ∨ m ∈ extra) {edge edge' : Cursor}
    (edges : Twin edge edge') (unlocated : ∀ m ∈ extra, ¬ Leads r ws edge m) {p q : Progress}
    (added : SameAdded before before' p q) :
    (enter r ws edge p).1.renumber 0 = (enter r ws edge' q).1.renumber 0 ∧
      SameAdded before before' (enter r ws edge p).2 (enter r ws edge' q).2 := by
  rw [enter, enter, ← source?_twin edges, ← edges.options]
  cases sourced : source? edge with
  | none => exact ⟨rfl, added⟩
  | some source =>
    dsimp only
    rcases located : (r.locator.locateFor ws source edge.options).outcome with e | _ | m
    · exact ⟨rfl, added⟩
    · exact ⟨rfl, added⟩
    · dsimp only
      have other : m ∉ extra := fun mem => unlocated m mem ⟨source, sourced, located⟩
      by_cases old : m ∈ p.visited
      · rw [if_pos old, if_pos ((added.mem_iff more other).2 old)]
        exact ⟨rfl, added⟩
      · rw [if_neg old, if_neg (mt (added.mem_iff more other).1 old)]
        obtain ⟨new, ofp, ofq⟩ := added
        have first (k : Nat) : Outcome.renumber 0 ((ws.load k m edge.options).outcome.map some) =
            (ws.load 0 m edge.options).outcome.map some := by
          rw [Workspace.load_map ws k 0]
          cases (ws.load k m edge.options).outcome <;> rfl
        exact ⟨(first _).trans (first _).symm, m :: new, congrArg (m :: ·) ofp,
          congrArg (m :: ·) ofq⟩

variable (before before') in
/-- Whether two searches are at the same point, but for the numbers of parses and for what was
visited before them. -/
structure Beside (c d : Config) : Prop where
  stack : List.Forall₂ Frame.Twin c.stack d.stack
  answer : c.answer.map (Cursor.renumber 0) = d.answer.map (Cursor.renumber 0)
  added : SameAdded before before' c.progress d.progress

variable (before before') in
/-- Whether two searches end alike. -/
def EndAlike (x y : Outcome × Progress) : Prop :=
  x.1.renumber 0 = y.1.renumber 0 ∧ SameAdded before before' x.2 y.2

variable (before before') in
/-- Whether two turns lead to the same. -/
inductive NextBeside : Next → Next → Prop
  | done {outcome outcome' : Outcome} {p q : Progress}
    (alike : EndAlike before before' (outcome, p) (outcome', q)) :
    NextBeside (.done outcome p) (.done outcome' q)
  | more {c d : Config} (beside : Beside before before' c d) : NextBeside (.more c) (.more d)

theorem resume_twin (more : ∀ m, m ∈ before' ↔ m ∈ before ∨ m ∈ extra) {frame frame' : Frame}
    (frames : frame.Twin frame') {answer answer' : Option Cursor}
    (answers : answer.map (Cursor.renumber 0) = answer'.map (Cursor.renumber 0))
    (unlocated : ∀ edge name, frame = .request edge name → ∀ m ∈ extra, ¬ Leads r ws edge m)
    {p q : Progress} (added : SameAdded before before' p q) :
    (resume r ws frame answer p).1.Twin (resume r ws frame' answer' q).1 ∧
      SameAdded before before' (resume r ws frame answer p).2 (resume r ws frame' answer' q).2 := by
  cases frames with
  | @request edge edge' name edges =>
    obtain ⟨outcomes, added⟩ := enter_twin more edges (unlocated edge name rfl) added
    rw [resume, resume]
    generalize enter r ws edge p = entering at outcomes added ⊢
    generalize enter r ws edge' q = entering' at outcomes added ⊢
    rcases entering with ⟨e | _ | program, p⟩ <;> rcases entering' with ⟨e' | _ | program', q⟩ <;>
      try cases outcomes
    · exact ⟨.failed e, added⟩
    · exact ⟨.finished rfl, added⟩
    · exact ⟨begin_twin (Option.some.inj (Except.ok.inj outcomes)) name, added⟩
  | module name programs => exact ⟨begin_twin programs name, added⟩
  | waiting clears programs items results =>
    exact ⟨proceed_twin programs items (absorb_twin clears results answers), added⟩

/-- What follows the turns of twin frames. -/
theorem advance_twin {below below' : List Frame} (others : List.Forall₂ Frame.Twin below below')
    {turn turn' : Turn} (turns : turn.Twin turn') {p q : Progress}
    (added : SameAdded before before' p q) :
    NextBeside before before' (advance r below (turn, p)) (advance r below' (turn', q)) := by
  cases turns with
  | failed e => exact .done ⟨rfl, added⟩
  | finished results => exact .more ⟨others, results, added⟩
  | asks name edges frames =>
    rw [advance, advance, ← others.length_eq]
    split
    · exact .more ⟨.cons frames others, rfl, added⟩
    · exact .more ⟨.cons (.request name edges) (.cons frames others), rfl, added⟩

/-- Two searches that are at the same point are so after the next turn, if this does not lead to a
module that only one of them counts as visited. -/
theorem step_beside (more : ∀ m, m ∈ before' ↔ m ∈ before ∨ m ∈ extra) {c d : Config}
    (beside : Beside before before' c d)
    (unlocated : ∀ edge name below, c.stack = .request edge name :: below →
      ∀ m ∈ extra, ¬ Leads r ws edge m) :
    NextBeside before before' (step r ws c) (step r ws d) := by
  obtain ⟨stack, answer, p⟩ := c
  obtain ⟨stack', answer', q⟩ := d
  obtain ⟨all, answers, added⟩ := beside
  cases all with
  | nil => exact .done ⟨congrArg Except.ok answers, added⟩
  | cons frames below =>
    obtain ⟨turns, added⟩ := resume_twin more frames answers
      (fun edge name top => unlocated edge name _ (by rw [top])) added
    exact advance_twin below turns added

/-! ## Runs side by side -/

variable (r ws) in
/-- Whether a run comes to a request that leads to a module. -/
def Locates (first : Config) (m : Path) : Prop :=
  ∃ c edge name below, Reaches r ws first c ∧ c.stack = .request edge name :: below ∧
    Leads r ws edge m

/-- What a run locates after a turn it locates. -/
theorem Locates.after {c c' : Config} {m : Path} (turn : step r ws c = .more c')
    (h : Locates r ws c' m) : Locates r ws c m := by
  obtain ⟨d, edge, name, below, reaches, top, leads⟩ := h
  exact ⟨d, edge, name, below, .head turn reaches, top, leads⟩

/-- Two runs whose first turns lead to the same end alike. -/
theorem run_alike (more : ∀ m, m ∈ before' ↔ m ∈ before ∨ m ∈ extra) {c d : Config}
    (next : NextBeside before before' (step r ws c) (step r ws d))
    (unlocated : ∀ m ∈ extra, ¬ Locates r ws c m) :
    EndAlike before before' (run r ws c) (run r ws d) := by
  induction c using run.induct r ws generalizing d with
  | case1 c outcome p last =>
    rw [run_eq, run_eq r ws d, last]
    rw [last] at next
    generalize step r ws d = next' at next ⊢
    cases next with
    | done alike => exact alike
  | case2 c c' turn ih =>
    rw [run_eq, run_eq r ws d, turn]
    rw [turn] at next
    generalize step r ws d = next' at next ⊢
    cases next with
    | more beside =>
      have unlocated' : ∀ m ∈ extra, ¬ Locates r ws c' m :=
        fun m mem located => unlocated m mem (located.after turn)
      refine ih (step_beside more beside fun edge name below top m mem leads => ?_) unlocated'
      exact unlocated' m mem ⟨c', edge, name, below, .refl, top, leads⟩

/-- So do two runs that are at the same point. -/
theorem run_beside (more : ∀ m, m ∈ before' ↔ m ∈ before ∨ m ∈ extra) {c d : Config}
    (beside : Beside before before' c d) (unlocated : ∀ m ∈ extra, ¬ Locates r ws c m) :
    EndAlike before before' (run r ws c) (run r ws d) := by
  refine run_alike more ?_ unlocated
  refine step_beside more beside fun edge name below top m mem leads => ?_
  exact unlocated m mem ⟨c, edge, name, below, .refl, top, leads⟩

/-- Asking a module through an edge begins like asking the module that was opened. -/
theorem step_request_module {edge program : Cursor} {m : Path} {k : Nat}
    (leads : Leads r ws edge m) (fresh : m ∉ before)
    (loads : (ws.load k m edge.options).outcome = .ok program) (name : String)
    (serial serial' : Nat) :
    NextBeside before (m :: before) (step r ws ⟨[.module program name], none, .start before serial⟩)
      (step r ws ⟨[.request edge name], none, .start before serial'⟩) := by
  obtain ⟨q, visited, turn⟩ := step_of_leads (p := .start before serial') name [] none leads fresh
    (Workspace.load_renumber loads)
  have twins : Twin program (program.renumber serial') := (Cursor.renumber_renumber ..).symm
  rw [turn]
  exact advance_twin .nil (begin_twin twins name) ⟨[], rfl, visited⟩

end

end Search

/-- Whether the search for a query locates a module. -/
def Session.Query.Locates (q : Session.Query) (r : Resolver) (ws : Workspace) (p : Search.Progress)
    (m : Path) : Prop :=
  ∃ frame, q.frame? = some frame ∧ Search.Locates r ws ⟨[frame], none, p⟩ m

namespace Search

variable (r : Resolver) (ws : Workspace)

/-- **The modules that a search does not locate have no influence on it.** Suppose that an edge
leads to a module that was not visited, and that the module is opened with the root, the language
and the other members of the options of the edge. If the search in it does not come to locate it
again, then it ends like the search from the edge: with the same node but for the numbers of the
parses, with nothing, or with the same failure; and the modules visited in the end are the same, but
for the module itself. In general, more modules can be counted as visited before a search. If it
locates none of them, it ends alike and adds the same modules. -/
theorem searches_side_by_side :
    (ws.world.Named → ∀ edge name before serial serial' k m program,
      (∀ member ∈ edge.options.extra, member.1 ∉ Options.knownMembers) →
      Leads r ws edge m → m ∉ before →
      (ws.openModule k m edge.options.root edge.options.members).outcome = .ok program →
      ¬ (Session.Query.find program name).Locates r ws (.start before serial) m →
        EndAlike before (m :: before) (r.findExported ws program name (.start before serial))
          (r.resolve ws edge name (.start before serial'))) ∧
    ∀ (q : Session.Query) (before before' extra : List Path) (serial serial' : Nat),
      (∀ m, m ∈ before' ↔ m ∈ before ∨ m ∈ extra) →
      (∀ m ∈ extra, ¬ q.Locates r ws (.start before serial) m) →
        EndAlike before before' (q.run r ws (.start before serial))
          (q.run r ws (.start before' serial')) := by
  constructor
  · intro named edge name before serial serial' k m program unknown leads fresh opened unlocated
    obtain ⟨loc, rfl, regular⟩ := leads.regular
    obtain ⟨-, rooted⟩ := Carries.leads (.inl rfl) leads
    rw [Workspace.openModule_eq_load (regular.canonical named ws.cwd) rooted unknown] at opened
    have more : ∀ m, m ∈ loc.toPath :: before ↔ m ∈ before ∨ m ∈ [loc.toPath] := by
      simp [or_comm]
    refine run_alike more (step_request_module leads fresh opened name serial serial') ?_
    refine List.forall_mem_singleton.2 fun located => unlocated ⟨_, rfl, located⟩
  · intro q before before' extra serial serial' more unlocated
    have added : SameAdded before before' (.start before serial) (.start before' serial') :=
      ⟨[], rfl, rfl⟩
    cases starts : q.frame? with
    | none =>
      rw [q.run_of_frame?_none r ws _ starts, q.run_of_frame?_none r ws _ starts]
      exact ⟨rfl, added⟩
    | some frame =>
      rw [q.run_of_frame? r ws _ starts, q.run_of_frame? r ws _ starts]
      have beside : Beside before before' ⟨[frame], none, .start before serial⟩
          ⟨[frame], none, .start before' serial'⟩ :=
        ⟨.cons (.refl frame) .nil, rfl, added⟩
      exact run_beside more beside fun m mem located => unlocated m mem ⟨frame, starts, located⟩

/-! ## Searches that locate nothing, or no such module -/

variable {r ws}

/-- Only regular files are located. -/
theorem Locates.regular {first : Config} {m : Path} (h : Locates r ws first m) :
    ∃ loc, m = Location.toPath loc ∧ ws.world.IsRegular loc := by
  obtain ⟨c, edge, name, below, -, -, leads⟩ := h
  exact leads.regular

/-- Under a cap of one the search in a module makes no requests. -/
theorem not_locates_of_cap (cap : r.maxDepth ≤ 1) (program : Cursor) (name : String) (p : Progress)
    (m : Path) : ¬ Locates r ws ⟨[.module program name], none, p⟩ m := by
  rintro ⟨c, edge, name', below, reaches, top, -⟩
  have searched : ∀ frame ∈ c.stack, frame.program?.isSome := by
    refine reaches.induction (P := fun c => ∀ frame ∈ c.stack, frame.program?.isSome)
      (List.forall_mem_singleton.2 rfl) ?_
    intro c c' moves searched
    cases moves with
    | finished turn => exact fun frame mem => searched frame (List.mem_cons_of_mem _ mem)
    | @refused frame waiting below answer p q edge name turn full =>
      obtain ⟨top, rest⟩ := List.forall_mem_cons.1 searched
      refine List.forall_mem_cons.2 ⟨?_, rest⟩
      rcases turn.waits with ⟨search, -, -⟩ | ⟨_, _, -, search, -⟩
      · exact search
      · rw [search]; rfl
    | pushed turn room => omega
  rw [top] at searched
  cases searched _ List.mem_cons_self

open TwoModules in
/-- Under a cap of one, asking the first of two modules through an edge and opening it come to the
same; and it has no influence on a search to count as visited what is no file. -/
theorem searches_side_by_side_two_modules :
    EndAlike [] [first]
        ((⟨Locator.default, 1⟩ : Resolver).findExported workspace (firstProgram 0) "x"
          (.start [] 0))
        ((⟨Locator.default, 1⟩ : Resolver).resolve workspace (wildcard (secondProgram 0)) "x"
          (.start [] 5)) ∧
      EndAlike [] [⟨.root, ["c.js"]⟩]
        (resolver.resolve workspace (wildcard (secondProgram 0)) "x" (.start [] 0))
        (resolver.resolve workspace (wildcard (secondProgram 0)) "x"
          (.start [⟨.root, ["c.js"]⟩] 0)) := by
  constructor
  · refine (searches_side_by_side ⟨Locator.default, 1⟩ workspace).1 named _ "x" [] 0 5 0 first
      (firstProgram 0) (by decide) (leads_second 0) List.not_mem_nil ?_ ?_
    · cbv
    · rintro ⟨frame, starts, located⟩
      cases starts
      exact not_locates_of_cap (Int.le_refl 1) _ _ _ _ located
  · refine (searches_side_by_side resolver workspace).2 (.resolve _ "x") [] _
      [⟨.root, ["c.js"]⟩] 0 0 (by simp) ?_
    refine List.forall_mem_singleton.2 ?_
    rintro ⟨frame, -, located⟩
    obtain ⟨loc, same, regular⟩ := located.regular
    have listed : loc = ["a.js"] ∨ loc = ["b.js"] := by
      simpa [World.locations, workspace] using regular.mem_locations
    rcases listed with rfl | rfl <;> exact absurd same (by decide)

end Search

end ExportTrail
