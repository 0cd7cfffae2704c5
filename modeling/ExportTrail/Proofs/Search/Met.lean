import ExportTrail.Proofs.Export.Agenda
import ExportTrail.Proofs.Parse.Options
import ExportTrail.Proofs.Search.Stack
import ExportTrail.Session

/-!
# Statements that a search meets

A search follows the statements it begins with and those of the modules that it has loaded (`Met`).
A turn keeps this of all that is on the stack (`AllMet.step`), and so does a run (`AllMet.reaches`).

What a turn does to enter modules is said by `step_acts`: a request on top of the stack that leads
to a module loads it, and nothing else does. From this `run_acts_induction` gets what holds of all
acts of a run. A run only fails in the turn of a request (`step_done_error`).

`Session.Query.frame?` is the frame that the search for a query starts with.
-/

namespace ExportTrail

namespace Search

/-! ## Statements on the stack -/

/-- Whether a search that begins with given statements can follow a statement after some acts. -/
inductive Met (given : Cursor → Prop) (acts : List Act) (edge : Cursor) : Prop
  | given (first : given edge)
  | loaded {m : Path} {program : Cursor} (load : .load m (.ok program) ∈ acts)
    (mem : edge ∈ Export.statements program)

section

variable {given : Cursor → Prop} {acts acts' : List Act}

theorem Met.mono {edge : Cursor} (h : Met given acts edge) (sub : acts ⊆ acts') :
    Met given acts' edge := by
  cases h with
  | given first => exact .given first
  | loaded load mem => exact .loaded (sub load) mem

variable (given acts) in
/-- Whether a search can follow all statements that an agenda asks for. -/
def MetItems (items : List Export.Item) : Prop :=
  ∀ edge name clears, .ask edge name clears ∈ items → Met given acts edge

variable (given acts) in
/-- Whether a search can follow all statements that a frame asks for. -/
def MetFrame : Frame → Prop
  | .request edge _ => Met given acts edge
  | .module program _ => ∀ s ∈ Export.statements program, Met given acts s
  | .waiting _ _ rest _ => MetItems given acts rest

variable (given) in
/-- Whether a search can follow all statements that the frames of a configuration ask for. -/
def AllMet (c : Config) : Prop := ∀ frame ∈ c.stack, MetFrame given c.progress.acts frame

theorem MetFrame.mono {frame : Frame} (h : MetFrame given acts frame) (sub : acts ⊆ acts') :
    MetFrame given acts' frame := by
  cases frame with
  | request edge name => exact Met.mono h sub
  | module program name => exact fun s mem => (h s mem).mono sub
  | waiting program clears rest result =>
    exact fun edge name clears mem => (h edge name clears mem).mono sub

/-- An agenda asks for statements of its module. -/
theorem metItems_agenda {program : Cursor} (h : ∀ s ∈ Export.statements program, Met given acts s)
    (name : String) : MetItems given acts (Export.agenda program name) :=
  fun edge _ _ mem => h edge (Export.forwards_of_mem_agenda mem).1

theorem MetItems.proceeds {program edge : Cursor} {items : List Export.Item}
    {result : Option Cursor} {name : String} {waiting : Frame} (h : MetItems given acts items)
    (works : Proceeds program items result (.asks edge name waiting)) :
    Met given acts edge ∧ MetFrame given acts waiting := by
  cases works with
  | asks origin mem later =>
    exact ⟨h _ _ _ mem, fun edge name clears mem => h edge name clears (later mem)⟩

variable {r : Resolver} {ws : Workspace}

theorem MetFrame.resumes {answer : Option Cursor} {p q : Progress} {frame waiting : Frame}
    {edge : Cursor} {name : String} (h : MetFrame given p.acts frame)
    (turn : Resumes r ws answer p frame (.asks edge name waiting, q)) :
    Met given q.acts edge ∧ MetFrame given q.acts waiting := by
  cases turn with
  | @entered edge' _ m program _ events leads fresh loads works =>
    let q := ((p.record events).mark m).attempt m (ws.load p.serial m edge'.options)
    have load : .load m (.ok program) ∈ q.acts := by
      rw [Progress.acts_attempt, loads]
      exact List.mem_append_right _ List.mem_cons_self
    exact (metItems_agenda (fun s mem => .loaded load mem) _).proceeds works
  | begins works => exact (metItems_agenda h _).proceeds works
  | goesOn works => exact MetItems.proceeds h works

/-- Every turn keeps to statements that the search can follow. -/
theorem AllMet.step {c c' : Config} (moves : Moves r ws c c') (h : AllMet given c) :
    AllMet given c' := by
  cases moves with
  | finished turn =>
    obtain ⟨-, rest⟩ := List.forall_mem_cons.1 h
    obtain ⟨acts, -⟩ := turn.grows (by simp)
    exact fun frame mem => (rest frame mem).mono acts
  | refused turn full =>
    obtain ⟨top, rest⟩ := List.forall_mem_cons.1 h
    obtain ⟨acts, -⟩ := turn.grows (by simp)
    obtain ⟨-, waits⟩ := top.resumes turn
    exact List.forall_mem_cons.2 ⟨waits, fun frame mem => (rest frame mem).mono acts⟩
  | pushed turn room =>
    obtain ⟨top, rest⟩ := List.forall_mem_cons.1 h
    obtain ⟨acts, -⟩ := turn.grows (by simp)
    obtain ⟨asks, waits⟩ := top.resumes turn
    exact List.forall_mem_cons.2 ⟨asks,
      List.forall_mem_cons.2 ⟨waits, fun frame mem => (rest frame mem).mono acts⟩⟩

theorem AllMet.reaches {c c' : Config} (h : AllMet given c) (reaches : Reaches r ws c c') :
    AllMet given c' :=
  reaches.induction h fun _ _ => AllMet.step

end

/-! ## Acts -/

section

variable (r : Resolver) (ws : Workspace)

/-- What has been done after a turn. -/
def Next.progress : Next → Progress
  | .done _ p => p
  | .more c => c.progress

theorem acts_advance (below : List Frame) (turn : Turn) (p : Progress) :
    (advance r below (turn, p)).progress.acts = p.acts := by
  cases turn with
  | failed e => rfl
  | finished result => rfl
  | asks edge name waiting =>
    rw [advance]
    split <;> rfl

/-- A turn enters no module, unless there is a request on top that leads to one. -/
theorem step_acts (c : Config) :
    (step r ws c).progress.acts = c.progress.acts ∨
      ∃ edge name below m, c.stack = .request edge name :: below ∧ Leads r ws edge m ∧
        (step r ws c).progress.acts =
          c.progress.acts ++
            [.mark m, .load m (ws.load c.progress.serial m edge.options).outcome] := by
  obtain ⟨_ | ⟨frame, below⟩, answer, p⟩ := c
  · exact .inl rfl
  cases frame with
  | module program name => exact .inl (acts_advance ..)
  | waiting program clears rest result => exact .inl (acts_advance ..)
  | request edge name =>
    have entry : Entry r ws edge p (enter r ws edge p) := enter_entry edge p
    have same : (step r ws ⟨.request edge name :: below, answer, p⟩).progress.acts =
        (enter r ws edge p).2.acts := by
      rw [step]
      dsimp only
      rw [resume]
      rcases enter r ws edge p with ⟨e | _ | program, q⟩ <;> exact acts_advance ..
    rw [same]
    generalize enter r ws edge p = entering at entry
    cases entry with
    | idle events => exact .inl rfl
    | lost events => exact .inl rfl
    | entered events leads =>
      exact .inr ⟨edge, name, below, _, rfl, leads, List.append_assoc ..⟩

variable {r ws} in
/-- What holds of the acts at first and is kept by every request that loads a module holds of all
acts of a run. -/
theorem run_acts_induction {P : List Act → Prop} {first : Config} (start : P first.progress.acts)
    (turn : ∀ c edge name below m, Reaches r ws first c → P c.progress.acts →
      c.stack = .request edge name :: below → Leads r ws edge m →
      P (c.progress.acts ++
        [.mark m, .load m (ws.load c.progress.serial m edge.options).outcome])) :
    P (run r ws first).2.acts := by
  have kept (c : Config) (reaches : Reaches r ws first c) (h : P c.progress.acts) :
      P (step r ws c).progress.acts := by
    rcases step_acts r ws c with same | ⟨edge, name, below, m, top, leads, more⟩
    · rw [same]
      exact h
    · rw [more]
      exact turn c edge name below m reaches h top leads
  obtain ⟨last, reaches, done⟩ := run_ends r ws first
  have reached (c : Config) (reaches : Reaches r ws first c) : P c.progress.acts := by
    induction reaches with
    | refl => exact start
    | tail earlier next ih =>
      have after := kept _ earlier ih
      rwa [next] at after
  have ends := kept last reaches (reached last reaches)
  rwa [done] at ends

/-- A frame only fails if it is a request that cannot be entered. -/
theorem resume_failed {frame : Frame} {answer : Option Cursor} {p q : Progress} {e : Failure}
    (h : resume r ws frame answer p = (.failed e, q)) :
    ∃ edge name, frame = .request edge name ∧ enter r ws edge p = (.error e, q) := by
  have works (program : Cursor) (items : List Export.Item) (result : Option Cursor) :
      proceed program items result ≠ .failed e := by
    intro fails
    have stops := proceed_proceeds program items result
    rw [fails] at stops
    cases stops
  cases frame with
  | request edge name =>
    refine ⟨edge, name, rfl, ?_⟩
    rw [resume] at h
    generalize enter r ws edge p = entering at h ⊢
    rcases entering with ⟨e' | _ | program, p'⟩
    · cases h
      rfl
    · cases h
    · exact absurd (congrArg Prod.fst h) (works _ _ _)
  | module program name => exact absurd (congrArg Prod.fst h) (works _ _ _)
  | waiting program clears rest result => exact absurd (congrArg Prod.fst h) (works _ _ _)

/-- A run only fails in the turn of a request that cannot be entered. -/
theorem step_done_error {c : Config} {e : Failure} {p : Progress}
    (h : step r ws c = .done (.error e) p) :
    ∃ edge name below, c.stack = .request edge name :: below ∧
      enter r ws edge c.progress = (.error e, p) := by
  obtain ⟨_ | ⟨frame, below⟩, answer, q⟩ := c
  · cases h
  · rw [step] at h
    dsimp only at h
    cases turning : resume r ws frame answer q with
    | mk turn q' =>
      rw [turning] at h
      cases turn with
      | finished result => cases h
      | asks edge name waiting =>
        rw [advance] at h
        split at h <;> cases h
      | failed e' =>
        cases h
        obtain ⟨edge, name, rfl, fails⟩ := resume_failed r ws turning
        exact ⟨edge, name, below, rfl, fails⟩

end

end Search

namespace Session.Query

open Search

/-- The frame that the search for a query starts with. A name that an import statement does not bind
is not searched for. -/
def frame? : Query → Option Frame
  | .resolve edge name => some (.request edge name)
  | .find program name => some (.module program name)
  | .binding statement localName =>
    (Import.exportedName? statement localName).map (.request statement)

/-- The node that a query starts from. -/
def origin : Query → Cursor
  | .resolve edge _ => edge
  | .find program _ => program
  | .binding statement _ => statement

/-- Whether a query begins with a statement. -/
def Begins : Query → Cursor → Prop
  | .resolve edge _, s => s = edge
  | .find program _, s => s ∈ Export.statements program
  | .binding statement _, s => s = statement

variable (q : Query) (r : Resolver) (ws : Workspace) (p : Progress)

theorem run_of_frame? {frame : Frame} (h : q.frame? = some frame) :
    q.run r ws p = Search.run r ws ⟨[frame], none, p⟩ := by
  cases q with
  | resolve edge name => cases h; rfl
  | find program name => cases h; rfl
  | binding statement localName =>
    obtain ⟨name, bound, rfl⟩ := Option.map_eq_some_iff.1 h
    rw [run, Resolver.resolveBinding, bound]
    rfl

theorem run_of_frame?_none (h : q.frame? = none) : q.run r ws p = (.ok none, p) := by
  cases q with
  | resolve edge name => cases h
  | find program name => cases h
  | binding statement localName => rw [run, Resolver.resolveBinding, Option.map_eq_none_iff.1 h]

variable {q}

/-- The frame asks for the statements that the query begins with. -/
theorem allMet_frame? {frame : Frame} (h : q.frame? = some frame) :
    AllMet q.Begins ⟨[frame], none, p⟩ := by
  refine List.forall_mem_singleton.2 ?_
  cases q with
  | resolve edge name => cases h; exact .given rfl
  | find program name => cases h; exact fun s mem => .given mem
  | binding statement localName =>
    obtain ⟨name, -, rfl⟩ := Option.map_eq_some_iff.1 h
    exact .given rfl

/-- The statements that a query begins with have the options of the node that it starts from, or
none. -/
theorem options_of_begins {s : Cursor} (h : q.Begins s) :
    s.options = q.origin.options ∨ s.options = Options.empty := by
  cases q with
  | resolve edge name => exact .inl (congrArg Cursor.options h)
  | find program name => exact (Export.under_of_mem_statements h).options
  | binding statement localName => exact .inl (congrArg Cursor.options h)

end Session.Query

end ExportTrail
