import ExportTrail.Search
import Mathlib.Logic.Relation

/-!
# Turns of the machine

What the machine can do in one turn, said once. `Resumes` lists what the frame on top does: it ends
for lack of a new module, it fails, or it works on an agenda, that of the module it enters or what
is left of the one it waited in. `Proceeds` says where such work stops: at the end of the agenda or
at a request. `step_more` puts these together with what happens to the stack.

`Reaches` is for the configurations that a run passes through; every run comes to its last one
(`run_ends`).
-/

namespace ExportTrail.Search

/-- The tree of the module that a frame searches. A request searches none yet. -/
def Frame.program? : Frame → Option Cursor
  | .request _ _ => none
  | .module program _ => some program
  | .waiting program _ _ _ => some program

/-! ## The frame on top -/

/-- Where the work on an agenda can stop. The result so far is the one at the start, or it was
settled by an item. -/
inductive Proceeds (program : Cursor) (items : List Export.Item) (result : Option Cursor) :
    Turn → Prop
  /-- All is done. -/
  | finished {found : Option Cursor} (origin : found = result ∨ .settle found ∈ items) :
    Proceeds program items result (.finished found)
  /-- Another module is needed. -/
  | asks {edge : Cursor} {name : String} {clears : Bool} {rest : List Export.Item}
    {found : Option Cursor} (origin : found = result ∨ .settle found ∈ items)
    (mem : .ask edge name clears ∈ items) (later : rest ⊆ items) :
    Proceeds program items result (.asks edge name (.waiting program clears rest found))

theorem proceed_proceeds (program : Cursor) (items : List Export.Item) (result : Option Cursor) :
    Proceeds program items result (proceed program items result) := by
  fun_induction proceed program items result with
  | case1 result => exact .finished (.inl rfl)
  | case2 settled rest result ih =>
    have widen {found : Option Cursor} (origin : found = settled ∨ .settle found ∈ rest) :
        found = result ∨ .settle found ∈ .settle settled :: rest := by
      rcases origin with rfl | mem
      · exact .inr List.mem_cons_self
      · exact .inr (List.mem_cons_of_mem _ mem)
    generalize proceed program rest settled = turn at ih ⊢
    cases ih with
    | finished origin => exact .finished (widen origin)
    | asks origin mem later =>
      exact .asks (widen origin) (List.mem_cons_of_mem _ mem) (List.subset_cons_of_subset _ later)
  | case3 edge name clears rest result =>
    exact .asks (.inl rfl) List.mem_cons_self (List.subset_cons_self _ rest)

variable (r : Resolver) (ws : Workspace)

/-- What a frame can do in its turn. -/
inductive Resumes (answer : Option Cursor) (p : Progress) : Frame → Turn × Progress → Prop
  /-- There is nothing to enter, or nothing new. -/
  | idle {edge : Cursor} {name : String} (events : List Log.Event)
    (nothing : ∀ m, Leads r ws edge m → m ∈ p.visited) :
    Resumes answer p (.request edge name) (.finished none, p.record events)
  /-- The module cannot be located or loaded. -/
  | failed {edge : Cursor} {name : String} (failure : Failure) (q : Progress) :
    Resumes answer p (.request edge name) (.failed failure, q)
  /-- The module is visited for the first time, and it is loaded. -/
  | entered {edge : Cursor} {name : String} {m : Path} {program : Cursor} {turn : Turn}
    (events : List Log.Event) (leads : Leads r ws edge m) (fresh : m ∉ p.visited)
    (loads : (ws.load p.serial m edge.options).outcome = .ok program)
    (works : Proceeds program (Export.agenda program name) none turn) :
    Resumes answer p (.request edge name)
      (turn, ((p.record events).mark m).attempt m (ws.load p.serial m edge.options))
  /-- The search of a module begins. -/
  | begins {program : Cursor} {name : String} {turn : Turn}
    (works : Proceeds program (Export.agenda program name) none turn) :
    Resumes answer p (.module program name) (turn, p)
  /-- The search of a module goes on with the answer. -/
  | goesOn {program : Cursor} {clears : Bool} {rest : List Export.Item} {result : Option Cursor}
    {turn : Turn} (works : Proceeds program rest (absorb clears result answer) turn) :
    Resumes answer p (.waiting program clears rest result) (turn, p)

theorem resume_resumes (frame : Frame) (answer : Option Cursor) (p : Progress) :
    Resumes r ws answer p frame (resume r ws frame answer p) := by
  cases frame with
  | request edge name =>
    have entry : Entry r ws edge p (enter r ws edge p) := enter_entry edge p
    rw [resume]
    generalize enter r ws edge p = entering at entry ⊢
    cases entry with
    | idle events nothing => exact .idle events nothing
    | lost events misleads => exact .failed _ _
    | @entered m events leads fresh =>
      cases loads : (ws.load p.serial m edge.options).outcome with
      | error failure => exact .failed failure _
      | ok program => exact .entered events leads fresh loads (proceed_proceeds ..)
  | module program name => exact .begins (proceed_proceeds ..)
  | waiting program clears rest result => exact .goesOn (proceed_proceeds ..)

/-! ## The stack -/

/-- What a turn that is not the last does to the stack. -/
inductive Moves : Config → Config → Prop
  /-- The frame on top is finished, and its result is the answer for the one below. -/
  | finished {frame : Frame} {below : List Frame} {answer result : Option Cursor} {p q : Progress}
    (turn : Resumes r ws answer p frame (.finished result, q)) :
    Moves ⟨frame :: below, answer, p⟩ ⟨below, result, q⟩
  /-- The frame on top has a request, which is refused. -/
  | refused {frame waiting : Frame} {below : List Frame} {answer : Option Cursor} {p q : Progress}
    {edge : Cursor} {name : String}
    (turn : Resumes r ws answer p frame (.asks edge name waiting, q))
    (full : r.maxDepth ≤ ((below.length + 1 : Nat) : Int)) :
    Moves ⟨frame :: below, answer, p⟩ ⟨waiting :: below, none, q.record [.tooDeep r.maxDepth name]⟩
  /-- The frame on top has a request, which is put on top of it. -/
  | pushed {frame waiting : Frame} {below : List Frame} {answer : Option Cursor} {p q : Progress}
    {edge : Cursor} {name : String}
    (turn : Resumes r ws answer p frame (.asks edge name waiting, q))
    (room : ((below.length + 1 : Nat) : Int) < r.maxDepth) :
    Moves ⟨frame :: below, answer, p⟩ ⟨.request edge name :: waiting :: below, none, q⟩

theorem step_more {c c' : Config} (h : step r ws c = .more c') : Moves r ws c c' := by
  obtain ⟨_ | ⟨frame, below⟩, answer, p⟩ := c
  · cases h
  · have turn := resume_resumes r ws frame answer p
    rw [step] at h
    dsimp only at h
    generalize resume r ws frame answer p = turning at h turn
    rcases turning with ⟨failure | result | ⟨edge, name, waiting⟩, q⟩
    · cases h
    · cases h
      exact .finished turn
    · rw [advance] at h
      split at h
      · next full =>
        cases h
        exact .refused turn full
      · next room =>
        cases h
        exact .pushed turn (by omega)

variable {r ws} in
/-- A request for a module that is new and can be loaded becomes the search of that module. -/
theorem step_of_leads {edge program : Cursor} {p : Progress} {m : Path} (name : String)
    (below : List Frame) (answer : Option Cursor) (leads : Leads r ws edge m)
    (fresh : m ∉ p.visited) (loads : (ws.load p.serial m edge.options).outcome = .ok program) :
    ∃ q, q.visited = m :: p.visited ∧ step r ws ⟨.request edge name :: below, answer, p⟩ =
      advance r below (proceed program (Export.agenda program name) none, q) := by
  have entry : Entry r ws edge p (enter r ws edge p) := enter_entry edge p
  rw [step]
  dsimp only
  rw [resume]
  generalize enter r ws edge p = entering at entry ⊢
  cases entry with
  | idle events nothing => exact absurd (nothing m leads) fresh
  | lost events misleads => exact absurd misleads leads.not_misleads
  | entered events leads' =>
    obtain rfl := leads.unique leads'
    rw [loads]
    exact ⟨_, rfl, rfl⟩

/-- The turn of a run that does not fail is the last one when no frame is left. -/
theorem step_done_ok {c : Config} {found : Option Cursor} {p : Progress}
    (h : step r ws c = .done (.ok found) p) : c = ⟨[], found, p⟩ := by
  obtain ⟨_ | ⟨frame, below⟩, answer, q⟩ := c
  · cases h
    rfl
  · rw [step] at h
    dsimp only at h
    generalize resume r ws frame answer q = turning at h
    rcases turning with ⟨failure | result | ⟨edge, name, waiting⟩, q'⟩
    · cases h
    · cases h
    · rw [advance] at h
      split at h <;> cases h

/-! ## Runs -/

/-- Whether a run from one configuration passes through another. -/
def Reaches : Config → Config → Prop := Relation.ReflTransGen fun c c' => step r ws c = .more c'

/-- What holds at first and is kept by every turn holds of all configurations of a run. -/
theorem Reaches.induction {r : Resolver} {ws : Workspace} {P : Config → Prop} {c c' : Config}
    (h : Reaches r ws c c') (first : P c) (turn : ∀ c c', Moves r ws c c' → P c → P c') : P c' := by
  induction h with
  | refl => exact first
  | tail _ next ih => exact turn _ _ (step_more r ws next) ih

/-- Every run comes to a configuration whose turn is the last. -/
theorem run_ends (c : Config) :
    ∃ last, Reaches r ws c last ∧ step r ws last = .done (run r ws c).1 (run r ws c).2 := by
  induction c using run.induct r ws with
  | case1 c outcome p done =>
    refine ⟨c, .refl, ?_⟩
    rw [run]
    split
    · next h => exact h
    · next h => cases done.symm.trans h
  | case2 c c' turn ih =>
    obtain ⟨last, reaches, done⟩ := ih
    refine ⟨last, .head turn reaches, ?_⟩
    rw [run]
    split
    · next h => cases turn.symm.trans h
    · next h =>
      cases turn.symm.trans h
      exact done

end ExportTrail.Search
