import ExportTrail.Export
import ExportTrail.Locator.Regular

/-!
# The search for an export

A request asks the module behind an edge, that is an import or export statement with a source, for a
name that it exports. The module is located, entered once in the set of visited modules, loaded and
searched; statements that forward to other modules make further requests, depth first.

The search runs on a stack of frames. The frame on top works until it needs another module; then it
waits, and a frame for the request is put on top, unless the stack has its greatest height already.
When a frame finishes, its result is the answer for the frame below. `step` does one turn, `run` all
of them. A run ends because each turn either enters a module of the finite world for the first time
or leaves less to do on the stack (`step_decreases`).
-/

namespace ExportTrail

/-- How modules are located, and the most modules on one chain. -/
structure Resolver where
  locator : Locator
  maxDepth : Int
  deriving Repr

namespace Resolver

/-- The most modules on one chain, by default. -/
def defaultMaxDepth : Int := 1000

end Resolver

namespace Search

/-- What a search does to enter a module. -/
inductive Act
  /-- The module is added to the visited ones. -/
  | mark (module : Path)
  /-- The module is loaded, with this outcome. -/
  | load (module : Path) (outcome : Except Failure Cursor)

/-- The module that an act adds to the visited ones. -/
def Act.marked? : Act → Option Path
  | .mark module => some module
  | .load _ _ => none

/-- The module whose loading an act starts. -/
def Act.loaded? : Act → Option Path
  | .mark _ => none
  | .load module _ => some module

/-- What a search has done so far. -/
structure Progress where
  /-- The modules entered; none of them is entered again. -/
  visited : List Path
  /-- What was done to enter them, first to last. -/
  acts : List Act
  events : List Log.Event
  /-- The serial number of the next parse. -/
  serial : Nat

namespace Progress

/-- A search that has done nothing, in which some modules count as entered. -/
def start (visited : List Path) (serial : Nat) : Progress := ⟨visited, [], [], serial⟩

/-- The texts of the modules entered, each once and in order. -/
def visitedNames (p : Progress) : List String :=
  (p.visited.map Path.toString).eraseDups.mergeSort fun a b => !decide (b < a)

/-- More events. -/
def record (p : Progress) (events : List Log.Event) : Progress :=
  { p with events := p.events ++ events }

/-- One more module is visited. -/
def mark (p : Progress) (module : Path) : Progress :=
  { p with visited := module :: p.visited, acts := p.acts ++ [.mark module] }

/-- A module was loaded, or loading it was tried. -/
def attempt (p : Progress) (module : Path) (loaded : Recorded Cursor) : Progress :=
  { p with
    acts := p.acts ++ [.load module loaded.outcome]
    events := p.events ++ loaded.events
    serial := p.serial + 1 }

@[simp] theorem record_nil (p : Progress) : p.record [] = p := by
  simp [record]

@[simp] theorem visited_record (p : Progress) (events : List Log.Event) :
    (p.record events).visited = p.visited := rfl

@[simp] theorem acts_record (p : Progress) (events : List Log.Event) :
    (p.record events).acts = p.acts := rfl

@[simp] theorem visited_mark (p : Progress) (module : Path) :
    (p.mark module).visited = module :: p.visited := rfl

@[simp] theorem acts_mark (p : Progress) (module : Path) :
    (p.mark module).acts = p.acts ++ [.mark module] := rfl

@[simp] theorem visited_attempt (p : Progress) (module : Path) (loaded : Recorded Cursor) :
    (p.attempt module loaded).visited = p.visited := rfl

@[simp] theorem acts_attempt (p : Progress) (module : Path) (loaded : Recorded Cursor) :
    (p.attempt module loaded).acts = p.acts ++ [.load module loaded.outcome] := rfl

end Progress

/-- The outcome of a search: a failure, or the node that was found, if any. -/
abbrev Outcome := Except Failure (Option Cursor)

/-- The specifier that an edge names its module by. -/
def source? (edge : Cursor) : Option String := (edge.field? "source").bind Cursor.stringValue?

variable (r : Resolver) (ws : Workspace)

/-- Enters the module behind an edge. The answer is nothing if the edge has no source, its source
leads to no file, or the module was entered before. -/
def enter (edge : Cursor) (p : Progress) : Outcome × Progress :=
  match source? edge with
  | none => (.ok none, p)
  | some source =>
    let located := r.locator.locateFor ws source edge.options
    match located.outcome with
    | .error e => (.error e, p.record located.events)
    | .ok none => (.ok none, p.record located.events)
    | .ok (some path) =>
      if path ∈ p.visited then
        (.ok none, p.record (located.events ++ [.alreadyVisited path]))
      else
        let loaded := ws.load p.serial path edge.options
        (loaded.outcome.map some, ((p.record located.events).mark path).attempt path loaded)

/-- Whether the source of an edge leads to a module. -/
def Leads (edge : Cursor) (module : Path) : Prop :=
  ∃ source, source? edge = some source ∧
    (r.locator.locateFor ws source edge.options).outcome = .ok (some module)

/-- Whether the source of an edge cannot be followed, for a given cause. -/
def Misleads (edge : Cursor) (failure : Failure) : Prop :=
  ∃ source, source? edge = some source ∧
    (r.locator.locateFor ws source edge.options).outcome = .error failure

/-- The ways in which the attempt to enter the module behind an edge can end. -/
inductive Entry (edge : Cursor) (p : Progress) : Outcome × Progress → Prop
  /-- There is nothing to enter, or nothing new. -/
  | idle (events : List Log.Event)
    (nothing : ∀ module, Leads r ws edge module → module ∈ p.visited) :
    Entry edge p (.ok none, p.record events)
  /-- The module cannot be located. -/
  | lost {failure : Failure} (events : List Log.Event) (misleads : Misleads r ws edge failure) :
    Entry edge p (.error failure, p.record events)
  /-- The module is visited for the first time, and then loaded. -/
  | entered {module : Path} (events : List Log.Event) (leads : Leads r ws edge module)
    (fresh : module ∉ p.visited) :
    Entry edge p ((ws.load p.serial module edge.options).outcome.map some,
      ((p.record events).mark module).attempt module (ws.load p.serial module edge.options))

variable {r ws}

/-- An edge leads to one module at most. -/
theorem Leads.unique {edge : Cursor} {m m' : Path} (h : Leads r ws edge m)
    (h' : Leads r ws edge m') : m = m' := by
  obtain ⟨source, hs, hl⟩ := h
  obtain ⟨source', hs', hl'⟩ := h'
  obtain rfl : source = source' := by simpa [hs] using hs'
  simpa [hl] using hl'

theorem Leads.not_misleads {edge : Cursor} {m : Path} {failure : Failure} (h : Leads r ws edge m) :
    ¬ Misleads r ws edge failure := by
  rintro ⟨source', hs', hl'⟩
  obtain ⟨source, hs, hl⟩ := h
  obtain rfl : source = source' := by simpa [hs] using hs'
  cases hl.symm.trans hl'

theorem enter_entry (edge : Cursor) (p : Progress) : Entry r ws edge p (enter r ws edge p) := by
  unfold enter
  split
  · next nosource =>
    have idle : Entry r ws edge p (.ok none, p.record []) := by
      refine .idle [] ?_
      rintro m ⟨source, hs, -⟩
      simp [nosource] at hs
    rwa [Progress.record_nil] at idle
  · next source hsource =>
    dsimp only
    split
    · next e he => exact .lost _ ⟨source, hsource, he⟩
    · next hnone =>
      refine .idle _ ?_
      rintro m ⟨source', hs, hl⟩
      obtain rfl : source = source' := by simpa [hsource] using hs
      simp [hnone] at hl
    · next path hpath =>
      have leads : Leads r ws edge path := ⟨source, hsource, hpath⟩
      split
      · next visited => exact .idle _ fun m hm => leads.unique hm ▸ visited
      · next fresh => exact .entered _ leads fresh

variable (r ws)

/-! ## The machine -/

/-- A suspended piece of the search. -/
inductive Frame
  /-- A request that has not been looked at. -/
  | request (edge : Cursor) (name : String)
  /-- A module that has not been searched. -/
  | module (program : Cursor) (name : String)
  /-- A module that waits for an answer. `clears` says what an answer of nothing does, `rest` is
  what is left to do, and `result` is the result so far. -/
  | waiting (program : Cursor) (clears : Bool) (rest : List Export.Item) (result : Option Cursor)

/-- How the turn of a frame ends. -/
inductive Turn
  | failed (failure : Failure)
  | finished (result : Option Cursor)
  /-- The frame has a request and waits for the answer. -/
  | asks (edge : Cursor) (name : String) (frame : Frame)

/-- Works on the agenda of a module until another module is needed. -/
def proceed (program : Cursor) : List Export.Item → Option Cursor → Turn
  | [], result => .finished result
  | .settle result :: rest, _ => proceed program rest result
  | .ask edge name clears :: rest, result => .asks edge name (.waiting program clears rest result)

/-- The result after an answer. -/
def absorb (clears : Bool) (result answer : Option Cursor) : Option Cursor :=
  if clears then answer else answer.orElse fun _ => result

/-- The turn of a frame. Only a waiting frame looks at the answer. -/
def resume (frame : Frame) (answer : Option Cursor) (p : Progress) : Turn × Progress :=
  match frame with
  | .request edge name =>
    match enter r ws edge p with
    | (.error e, p) => (.failed e, p)
    | (.ok none, p) => (.finished none, p)
    | (.ok (some program), p) => (proceed program (Export.agenda program name) none, p)
  | .module program name => (proceed program (Export.agenda program name) none, p)
  | .waiting program clears rest result =>
    (proceed program rest (absorb clears result answer), p)

/-- The frames, the last one to start first, and the answer for the top one. -/
structure Config where
  stack : List Frame
  answer : Option Cursor
  progress : Progress

/-- What a turn leads to. -/
inductive Next
  | done (outcome : Outcome) (progress : Progress)
  | more (config : Config)

/-- What follows the turn of the frame on top of others. A request for another module is refused,
and answered by nothing, when there are as many frames as modules may be on a chain. -/
def advance (below : List Frame) : Turn × Progress → Next
  | (.failed e, p) => .done (.error e) p
  | (.finished result, p) => .more ⟨below, result, p⟩
  | (.asks edge name waiting, p) =>
    if r.maxDepth ≤ ((below.length + 1 : Nat) : Int) then
      .more ⟨waiting :: below, none, p.record [.tooDeep r.maxDepth name]⟩
    else
      .more ⟨.request edge name :: waiting :: below, none, p⟩

/-- One turn: the frame on top works with the answer it has got. -/
def step (c : Config) : Next :=
  match c.stack with
  | [] => .done (.ok c.answer) c.progress
  | frame :: below => advance r below (resume r ws frame c.answer c.progress)

/-! ## Termination -/

/-- The number of files of the world that have not been entered. -/
def unvisited (w : World) (p : Progress) : Nat :=
  w.locations.countP fun l => l.toPath ∉ p.visited

/-- A bound on the turns that a frame takes without entering another module. -/
def Frame.work : Frame → Nat
  | .request _ _ => 1
  | .module program name => 2 * (Export.agenda program name).length + 2
  | .waiting _ _ rest _ => 2 * rest.length + 1

@[simp] theorem Frame.work_request (edge : Cursor) (name : String) :
    (Frame.request edge name).work = 1 := rfl

@[simp] theorem Frame.work_module (program : Cursor) (name : String) :
    (Frame.module program name).work = 2 * (Export.agenda program name).length + 2 := rfl

@[simp] theorem Frame.work_waiting (program : Cursor) (clears : Bool) (rest : List Export.Item)
    (result : Option Cursor) :
    (Frame.waiting program clears rest result).work = 2 * rest.length + 1 := rfl

/-- A bound on the turns that a stack takes without entering another module. -/
def work : List Frame → Nat
  | [] => 0
  | frame :: below => frame.work + work below

variable {r ws}

/-- A condition that implies another one and misses a member that the other holds of is met by fewer
members. -/
theorem countP_lt_countP {α : Type} {p q : α → Bool} {l : List α}
    (imp : ∀ x ∈ l, p x = true → q x = true) {a : α} (mem : a ∈ l) (hp : p a = false)
    (hq : q a = true) : l.countP p < l.countP q := by
  induction l with
  | nil => simp at mem
  | cons b l ih =>
    have le : l.countP p ≤ l.countP q :=
      List.countP_mono_left fun x hx => imp x (List.mem_cons_of_mem _ hx)
    rcases List.mem_cons.1 mem with rfl | mem
    · rw [List.countP_cons_of_neg (by simp [hp]), List.countP_cons_of_pos hq]
      omega
    · have lt := ih (fun x hx => imp x (List.mem_cons_of_mem _ hx)) mem
      have head : (if p b then 1 else 0) ≤ (if q b then 1 else 0) := by
        cases h : p b
        · simp
        · simp [imp b List.mem_cons_self h]
      rw [List.countP_cons, List.countP_cons]
      exact Nat.add_lt_add_of_lt_of_le lt head

/-- Entering a file of the world leaves one file less. -/
theorem unvisited_mark_lt {w : World} {p : Progress} {path : Path}
    (mem : path ∈ w.locations.map Location.toPath) (fresh : path ∉ p.visited) :
    unvisited w (p.mark path) < unvisited w p := by
  obtain ⟨l, hl, rfl⟩ := List.mem_map.1 mem
  exact countP_lt_countP (by simp +contextual [Progress.mark]) hl (by simp [Progress.mark])
    (by simpa using fresh)

/-- A module is only entered for the first time. -/
theorem unvisited_enter {edge : Cursor} {p p' : Progress} {outcome : Outcome}
    (h : enter r ws edge p = (outcome, p')) :
    unvisited ws.world p' < unvisited ws.world p ∨
      unvisited ws.world p' = unvisited ws.world p ∧ ∀ program, outcome ≠ .ok (some program) := by
  have entry : Entry r ws edge p (enter r ws edge p) := enter_entry edge p
  rw [h] at entry
  cases entry with
  | idle events => exact .inr ⟨rfl, by simp⟩
  | lost events => exact .inr ⟨rfl, by simp⟩
  | entered events leads fresh =>
    obtain ⟨source, -, located⟩ := leads
    exact .inl (unvisited_mark_lt (Locator.locateFor_mem_locations located) fresh)

theorem work_of_proceed {program : Cursor} {items : List Export.Item} {result : Option Cursor}
    {edge : Cursor} {name : String} {waiting : Frame}
    (h : proceed program items result = .asks edge name waiting) :
    waiting.work + 1 ≤ 2 * items.length := by
  fun_induction proceed program items result with
  | case1 => simp at h
  | case2 _ _ rest ih => have := ih h; simp only [List.length_cons]; omega
  | case3 _ edge name clears rest =>
    simp only [Turn.asks.injEq] at h
    obtain ⟨-, -, rfl⟩ := h
    simp only [Frame.work_waiting, List.length_cons]
    omega

/-- Every turn that is not the last either enters a module for the first time, or leaves the set of
modules entered as it is and less to do on the stack. -/
theorem step_decreases {c c' : Config} (h : step r ws c = .more c') :
    unvisited ws.world c'.progress < unvisited ws.world c.progress ∨
      unvisited ws.world c'.progress = unvisited ws.world c.progress ∧
        work c'.stack < work c.stack := by
  obtain ⟨stack, answer, p⟩ := c
  unfold step at h
  cases stack with
  | nil => simp at h
  | cons frame below =>
    have turn : ∀ {t : Turn} {p' : Progress}, resume r ws frame answer p = (t, p') →
        unvisited ws.world p' < unvisited ws.world p ∨
          unvisited ws.world p' = unvisited ws.world p ∧
            ∀ edge name waiting, t = .asks edge name waiting → waiting.work + 1 < frame.work := by
      intro t p' ht
      cases frame with
      | request edge name =>
        simp only [resume] at ht
        split at ht
        · next e q hq =>
          cases ht
          rcases unvisited_enter hq with h | ⟨h, -⟩
          · exact .inl h
          · exact .inr ⟨h, by simp⟩
        · next q hq =>
          cases ht
          rcases unvisited_enter hq with h | ⟨h, -⟩
          · exact .inl h
          · exact .inr ⟨h, by simp⟩
        · next program q hq =>
          cases ht
          rcases unvisited_enter hq with h | ⟨-, h⟩
          · exact .inl h
          · exact absurd rfl (h program)
      | module program name =>
        simp only [resume, Prod.mk.injEq] at ht
        obtain ⟨ht, rfl⟩ := ht
        refine .inr ⟨rfl, fun edge name' waiting he => ?_⟩
        have := work_of_proceed (ht.trans he)
        rw [Frame.work_module]
        omega
      | waiting program clears rest result =>
        simp only [resume, Prod.mk.injEq] at ht
        obtain ⟨ht, rfl⟩ := ht
        refine .inr ⟨rfl, fun edge name' waiting he => ?_⟩
        have := work_of_proceed (ht.trans he)
        rw [Frame.work_waiting]
        omega
    have pos : 0 < frame.work := by cases frame <;> simp [Frame.work]
    dsimp only at h
    unfold advance at h
    split at h
    · simp at h
    · next result q hq =>
      cases h
      rcases turn hq with h | ⟨h, -⟩
      · exact .inl h
      · refine .inr ⟨h, ?_⟩
        simp only [work]
        omega
    · next edge name waiting q hq =>
      split at h
      · cases h
        rcases turn hq with h | ⟨h, hw⟩
        · exact .inl h
        · refine .inr ⟨h, ?_⟩
          have := hw _ _ _ rfl
          simp only [work]
          omega
      · cases h
        rcases turn hq with h | ⟨h, hw⟩
        · exact .inl h
        · refine .inr ⟨h, ?_⟩
          have := hw _ _ _ rfl
          simp only [work, Frame.work_request]
          omega

variable (r ws)

/-- All turns from a configuration on. -/
def run (c : Config) : Outcome × Progress :=
  match _turn : step r ws c with
  | .done outcome p => (outcome, p)
  | .more c' => run c'
termination_by (unvisited ws.world c.progress, work c.stack)
decreasing_by
  rcases step_decreases _turn with h | ⟨h₁, h₂⟩
  · exact Prod.Lex.left _ _ h
  · rw [h₁]; exact Prod.Lex.right _ h₂

end Search

namespace Resolver

/-- Asks the module behind an edge for a name that it exports. -/
def resolve (r : Resolver) (ws : Workspace) (edge : Cursor) (name : String)
    (p : Search.Progress) : Search.Outcome × Search.Progress :=
  Search.run r ws ⟨[.request edge name], none, p⟩

/-- Asks a module that is already parsed for a name that it exports. -/
def findExported (r : Resolver) (ws : Workspace) (program : Cursor) (name : String)
    (p : Search.Progress) : Search.Outcome × Search.Progress :=
  Search.run r ws ⟨[.module program name], none, p⟩

end Resolver

end ExportTrail
