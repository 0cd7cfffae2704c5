import ExportTrail.Proofs.Search.Stack
import Mathlib.Data.Set.Card

/-!
# The cap on chains

A smaller cap gives the same answer as a larger one, unless the search under the larger one really
has more modules open at once than the smaller one allows (`cap_transparent`).

The two runs are compared turn by turn (`Follows`). They part where the smaller cap refuses a
request and the larger one does not. If no module is entered on account of that request, its frame
is gone after one more turn, its answer is nothing, which is the answer to a refusal, and the runs
are at one again (`follows_turn`).
-/

namespace ExportTrail.Search

/-! ## Progress up to events -/

/-- Whether two searches have done the same, whatever events they recorded. -/
def Alike (p q : Progress) : Prop := ∃ events, q = { p with events }

namespace Alike

variable {p q : Progress}

theorem refl (p : Progress) : Alike p p := ⟨p.events, rfl⟩

theorem visited (h : Alike p q) : q.visited = p.visited := by
  obtain ⟨events, rfl⟩ := h
  rfl

theorem record_right (h : Alike p q) (events : List Log.Event) : Alike p (q.record events) := by
  obtain ⟨earlier, rfl⟩ := h
  exact ⟨earlier ++ events, rfl⟩

theorem record_left (h : Alike p q) (events : List Log.Event) : Alike (p.record events) q := by
  obtain ⟨earlier, rfl⟩ := h
  exact ⟨earlier, rfl⟩

end Alike

/-- Whether two searches, or two parts of them, end alike. -/
structure EndsAlike {α : Type} (x y : α × Progress) : Prop where
  /-- They come to the same. -/
  outcome : y.1 = x.1
  /-- They visited and loaded the same modules. -/
  progress : Alike x.2 y.2

theorem EndsAlike.exists_eq {α : Type} {x y : α × Progress} (h : EndsAlike x y) :
    ∃ outcome p q, x = (outcome, p) ∧ y = (outcome, q) ∧ Alike p q :=
  ⟨x.1, x.2, y.2, rfl, Prod.ext h.outcome rfl, h.progress⟩

section

variable {l : Locator} {ws : Workspace} {cap cap' : Int}

variable (l ws cap cap') in
/-- Entering a module depends neither on the cap nor on the events recorded. -/
theorem enter_alike (edge : Cursor) {p q : Progress} (h : Alike p q) :
    EndsAlike (enter ⟨l, cap⟩ ws edge p) (enter ⟨l, cap'⟩ ws edge q) := by
  obtain ⟨events, rfl⟩ := h
  unfold enter
  split
  · exact ⟨rfl, _, rfl⟩
  · dsimp only
    split
    · exact ⟨rfl, _, rfl⟩
    · exact ⟨rfl, _, rfl⟩
    · split
      · exact ⟨rfl, _, rfl⟩
      · exact ⟨rfl, _, rfl⟩

variable (l ws cap cap') in
/-- Nor does the turn of a frame. -/
theorem resume_alike (frame : Frame) (answer : Option Cursor) {p q : Progress} (h : Alike p q) :
    EndsAlike (resume ⟨l, cap⟩ ws frame answer p) (resume ⟨l, cap'⟩ ws frame answer q) := by
  cases frame with
  | request edge name =>
    obtain ⟨outcome, p₁, q₁, enters, enters', alike⟩ := (enter_alike l ws cap cap' edge h).exists_eq
    rw [resume, resume, enters, enters']
    rcases outcome with e | _ | program
    · exact ⟨rfl, alike⟩
    · exact ⟨rfl, alike⟩
    · exact ⟨rfl, alike⟩
  | module program name => exact ⟨rfl, h⟩
  | waiting program clears rest result => exact ⟨rfl, h⟩

end

/-! ## Open modules -/

section

variable (r : Resolver) (ws : Workspace)

/-- Whether a frame has entered a module by the end of its next turn: before, or in that turn. -/
def Frame.opens (p : Progress) : Frame → Bool
  | .request edge _ =>
    match (enter r ws edge p).1 with
    | .ok (some _) => true
    | _ => false
  | _ => true

/-- How many frames of the stack have entered a module by the end of the next turn, before any of
them is taken away. -/
def Config.openFrames (c : Config) : Nat := c.stack.countP (Frame.opens r ws c.progress)

variable {r ws}

theorem Frame.opens_of_program? {p : Progress} {frame : Frame} (h : frame.program?.isSome) :
    frame.opens r ws p = true := by
  cases frame with
  | request edge name => cases h
  | module program name => rfl
  | waiting program clears rest result => rfl

theorem countP_opens {p : Progress} {frames : List Frame}
    (all : ∀ frame ∈ frames, frame.program?.isSome) :
    frames.countP (Frame.opens r ws p) = frames.length :=
  List.countP_eq_length.2 fun frame mem => frame.opens_of_program? (all frame mem)

/-- A request on top that enters a module opens one more frame. -/
theorem openFrames_entered {edge : Cursor} {name : String} {below : List Frame}
    {answer : Option Cursor} {p p' : Progress} {program : Cursor}
    (enters : enter r ws edge p = (.ok (some program), p'))
    (all : ∀ frame ∈ below, frame.program?.isSome) :
    Config.openFrames r ws ⟨.request edge name :: below, answer, p⟩ = below.length + 1 := by
  have top : (Frame.request edge name).opens r ws p = true := by rw [Frame.opens, enters]
  rw [Config.openFrames, List.countP_cons_of_pos top, countP_opens all]

end

/-! ## The two runs -/

section

variable {l : Locator} {ws : Workspace} {cap cap' : Int}

/-- How a run under a cap is left behind by one under a larger cap. -/
inductive Follows (cap : Int) : Config → Config → Prop
  /-- Both are at the same place. -/
  | level {stack : List Frame} {answer : Option Cursor} {p q : Progress} (alike : Alike p q) :
    Follows cap ⟨stack, answer, p⟩ ⟨stack, answer, q⟩
  /-- The other run looks into a request that was refused in this one. -/
  | ahead {stack : List Frame} {p q : Progress} (edge : Cursor) (name : String)
    (high : cap ≤ stack.length) (alike : Alike p q) :
    Follows cap ⟨stack, none, p⟩ ⟨.request edge name :: stack, none, q⟩

/-- From the same place both runs do the same, but for a request that only one of them refuses. -/
theorem follows_step (le : cap ≤ cap') {stack : List Frame} {answer : Option Cursor}
    {p q : Progress} (alike : Alike p q) {c' : Config}
    (h : step ⟨l, cap'⟩ ws ⟨stack, answer, q⟩ = .more c') :
    ∃ c, step ⟨l, cap⟩ ws ⟨stack, answer, p⟩ = .more c ∧ Follows cap c c' := by
  cases stack with
  | nil => cases h
  | cons frame below =>
    obtain ⟨turn, p₁, q₁, turns, turns', after⟩ :=
      (resume_alike l ws cap cap' frame answer alike).exists_eq
    rw [step] at h ⊢
    dsimp only at h ⊢
    rw [turns'] at h
    rw [turns]
    cases turn with
    | failed failure => cases h
    | finished result =>
      cases h
      exact ⟨_, rfl, .level after⟩
    | asks edge name waiting =>
      rw [advance] at h ⊢
      dsimp only at h ⊢
      by_cases full' : cap' ≤ ((below.length + 1 : Nat) : Int)
      · rw [if_pos full'] at h
        cases h
        rw [if_pos (by omega)]
        exact ⟨_, rfl, .level ((after.record_left _).record_right _)⟩
      · rw [if_neg full'] at h
        cases h
        by_cases full : cap ≤ ((below.length + 1 : Nat) : Int)
        · rw [if_pos full]
          exact ⟨_, rfl, .ahead edge name full (after.record_left _)⟩
        · rw [if_neg full]
          exact ⟨_, rfl, .level after⟩

/-- A request that was refused in one run comes to nothing in the other, if no module may be entered
on account of it. -/
theorem follows_turn {stack : List Frame} {p q : Progress} {edge : Cursor} {name : String}
    (high : cap ≤ stack.length) (alike : Alike p q) (all : ∀ frame ∈ stack, frame.program?.isSome)
    (low : (Config.openFrames ⟨l, cap'⟩ ws ⟨.request edge name :: stack, none, q⟩ : Int) ≤ cap)
    {c' : Config} (h : step ⟨l, cap'⟩ ws ⟨.request edge name :: stack, none, q⟩ = .more c') :
    Follows cap ⟨stack, none, p⟩ c' := by
  rw [step] at h
  dsimp only at h
  rw [resume] at h
  have entry : Entry ⟨l, cap'⟩ ws edge q (enter ⟨l, cap'⟩ ws edge q) := enter_entry edge q
  rcases entering : enter ⟨l, cap'⟩ ws edge q with ⟨failure | _ | program, q₁⟩
  · rw [entering] at h
    cases h
  · rw [entering] at h entry
    cases h
    generalize outcome : (Except.ok none : Outcome) = outcome at entry
    cases entry with
    | idle events => exact .level (alike.record_right events)
    | lost events => cases outcome
    | @entered m =>
      -- a module that was loaded is not nothing
      cases loads : (ws.load q.serial m edge.options).outcome <;> rw [loads] at outcome <;>
        cases outcome
  · rw [openFrames_entered entering all] at low
    omega

/-- A run under a larger cap that never has more modules open than a smaller cap allows, and that
does not fail, ends like the run under the smaller cap. -/
theorem run_follows (le : cap ≤ cap') {c' : Config}
    (below : ∀ d, Reaches ⟨l, cap'⟩ ws c' d → ∀ frame ∈ d.stack.tail, frame.program?.isSome)
    (low : ∀ d, Reaches ⟨l, cap'⟩ ws c' d → (d.openFrames ⟨l, cap'⟩ ws : Int) ≤ cap)
    {found : Option Cursor} {q : Progress} (h : run ⟨l, cap'⟩ ws c' = (.ok found, q)) {c : Config}
    (follows : Follows cap c c') :
    ∃ p, run ⟨l, cap⟩ ws c = (.ok found, p) ∧ Alike p q := by
  induction c' using run.induct ⟨l, cap'⟩ ws generalizing c with
  | case1 c' outcome q' last =>
    rw [run_eq, last] at h
    cases h
    obtain rfl := step_done_ok _ _ last
    cases follows with
    | level alike => exact ⟨_, run_nil .., alike⟩
  | case2 c' d' turn ih =>
    rw [run_eq, turn] at h
    have ih := @ih (fun d reaches => below d (.head turn reaches))
      (fun d reaches => low d (.head turn reaches)) h
    cases follows with
    | level alike =>
      obtain ⟨d, turn, follows⟩ := follows_step le alike turn
      rw [run_eq, turn]
      exact ih follows
    | ahead edge name high alike =>
      exact ih (follows_turn high alike (below _ .refl) (low _ .refl) turn)

end

/-! ## How many modules can be open -/

section

variable {r : Resolver} {ws : Workspace}

/-- There are finitely many regular files. -/
theorem regular_finite (w : World) : {loc | w.IsRegular loc}.Finite :=
  w.locations.finite_toSet.subset fun _ => World.IsRegular.mem_locations

/-- There are no more different regular files than the world has. -/
theorem length_le_ncard_regular {w : World} {modules : List Path} (nodup : modules.Nodup)
    (regular : ∀ m ∈ modules, ∃ loc, m = Location.toPath loc ∧ w.IsRegular loc) :
    modules.length ≤ {loc | w.IsRegular loc}.ncard := by
  have sub : (modules.toFinset : Set Path) ⊆ Location.toPath '' {loc | w.IsRegular loc} := by
    intro m mem
    obtain ⟨loc, rfl, h⟩ := regular m (by simpa using mem)
    exact ⟨loc, h, rfl⟩
  have finite := regular_finite w
  calc modules.length = (modules.toFinset : Set Path).ncard := by
        rw [Set.ncard_coe_finset, List.toFinset_card_of_nodup nodup]
    _ ≤ (Location.toPath '' {loc | w.IsRegular loc}).ncard :=
        Set.ncard_le_ncard sub (finite.image Location.toPath)
    _ ≤ {loc | w.IsRegular loc}.ncard := Set.ncard_image_le finite

theorem Leads.regular {edge : Cursor} {m : Path} (h : Leads r ws edge m) :
    ∃ loc, m = Location.toPath loc ∧ ws.world.IsRegular loc := by
  obtain ⟨source, -, located⟩ := h
  exact Locator.locateFor_regular located

/-- Whether all modules that were loaded are regular files. -/
def LoadsRegular (ws : Workspace) (acts : List Act) : Prop :=
  ∀ m outcome, .load m outcome ∈ acts → ∃ loc, m = Location.toPath loc ∧ ws.world.IsRegular loc

theorem Resumes.loadsRegular {answer : Option Cursor} {p q : Progress} {frame : Frame} {turn : Turn}
    (resumes : Resumes r ws answer p frame (turn, q)) (goesOn : ∀ failure, turn ≠ .failed failure)
    (h : LoadsRegular ws p.acts) : LoadsRegular ws q.acts := by
  cases resumes with
  | idle events => exact h
  | failed failure => exact absurd rfl (goesOn failure)
  | entered events leads =>
    intro m outcome mem
    rcases List.mem_append.1 mem with old | new
    · rcases List.mem_append.1 old with old | mark
      · exact h m outcome old
      · cases List.mem_singleton.1 mark
    · cases List.mem_singleton.1 new
      exact leads.regular
  | begins works => exact h
  | goesOn works => exact h

/-- A turn only loads regular files. -/
theorem loadsRegular_step {c c' : Config} (moves : Moves r ws c c')
    (h : LoadsRegular ws c.progress.acts) : LoadsRegular ws c'.progress.acts := by
  cases moves with
  | finished turn => exact turn.loadsRegular (by simp) h
  | refused turn full =>
    rw [Progress.acts_record]
    exact turn.loadsRegular (by simp) h
  | pushed turn room => exact turn.loadsRegular (by simp) h

/-- At no turn more modules are open than there are regular files, the given tree aside. -/
theorem Orderly.openFrames_le {given : Option Cursor} {before : List Path} {c : Config}
    (h : Orderly r given before c) (regular : LoadsRegular ws c.progress.acts) :
    c.openFrames r ws ≤ {loc | ws.world.IsRegular loc}.ncard + given.toList.length := by
  obtain ⟨_ | ⟨frame, below⟩, answer, p⟩ := c
  · exact Nat.zero_le _
  obtain ⟨entered, searched, standing⟩ := h.modules (List.cons_ne_nil _ _)
  have all : ∀ frame ∈ below, frame.program?.isSome := h.below
  have sizes := congrArg List.length searched
  have length_below := length_filterMap_program? all
  have files : ∀ m ∈ entered.map Prod.fst, ∃ loc, m = Location.toPath loc ∧
      ws.world.IsRegular loc := by
    intro m mem
    obtain ⟨e, he, rfl⟩ := List.mem_map.1 mem
    exact regular e.1 _ (standing.loaded e he)
  have few := length_le_ncard_regular standing.nodup files
  rw [List.length_append, List.length_map] at sizes
  rw [List.length_map] at few
  cases search : frame.program? with
  | some program =>
    rw [List.filterMap_cons_some search, List.length_cons, length_below] at sizes
    have top : frame.opens r ws p = true := frame.opens_of_program? (by rw [search]; rfl)
    rw [Config.openFrames, List.countP_cons_of_pos top, countP_opens all]
    omega
  | none =>
    rw [List.filterMap_cons_none search, length_below] at sizes
    rw [Config.openFrames]
    by_cases top : frame.opens r ws p = true
    · rw [List.countP_cons_of_pos top, countP_opens all]
      -- the request on top enters a module that is different from those that stand open
      obtain ⟨m, fresh, loc, rfl, file⟩ : ∃ m, m ∉ p.visited ∧
          ∃ loc, m = Location.toPath loc ∧ ws.world.IsRegular loc := by
        cases frame with
        | request edge name =>
          have entry : Entry r ws edge p (enter r ws edge p) := enter_entry edge p
          rw [Frame.opens] at top
          generalize enter r ws edge p = entering at entry top
          cases entry with
          | idle events => cases top
          | lost events => cases top
          | @entered m events leads fresh => exact ⟨m, fresh, leads.regular⟩
        | module program name => cases search
        | waiting program clears rest result => cases search
      have nodup : (loc.toPath :: entered.map Prod.fst).Nodup := by
        refine List.nodup_cons.2 ⟨fun mem => ?_, standing.nodup⟩
        obtain ⟨e, he, same⟩ := List.mem_map.1 mem
        exact fresh (same ▸ standing.visited e he)
      have more := length_le_ncard_regular nodup
        (List.forall_mem_cons.2 ⟨⟨loc, rfl, file⟩, files⟩)
      rw [List.length_cons, List.length_map] at more
      omega
    · rw [List.countP_cons_of_neg top, countP_opens all]
      omega

end

/-- **A cap matters only where a chain is longer.** Take two caps and a search that does not fail
under the larger one. If at no turn of it more frames have entered a module than the smaller cap
says, then the search under the smaller cap has the same answer, be it a node or nothing, and leaves
the same modules visited. This is always so if there are no more regular files than the smaller cap
says, and one less if the search begins with a tree that is already parsed. -/
theorem cap_transparent (l : Locator) (ws : Workspace) (before : List Path) (serial : Nat)
    {cap cap' : Int} (le : cap ≤ cap') :
    (∀ edge name found q,
      let first : Config := ⟨[.request edge name], none, .start before serial⟩
      (⟨l, cap'⟩ : Resolver).resolve ws edge name (.start before serial) = (.ok found, q) →
      ({loc | ws.world.IsRegular loc}.ncard ≤ cap ∨
        ∀ c, Reaches ⟨l, cap'⟩ ws first c → (c.openFrames ⟨l, cap'⟩ ws : Int) ≤ cap) →
      ∃ p, (⟨l, cap⟩ : Resolver).resolve ws edge name (.start before serial) = (.ok found, p) ∧
        p.visited = q.visited) ∧
    ∀ program name found q,
      let first : Config := ⟨[.module program name], none, .start before serial⟩
      (⟨l, cap'⟩ : Resolver).findExported ws program name (.start before serial) = (.ok found, q) →
      ({loc | ws.world.IsRegular loc}.ncard + 1 ≤ cap ∨
        ∀ c, Reaches ⟨l, cap'⟩ ws first c → (c.openFrames ⟨l, cap'⟩ ws : Int) ≤ cap) →
      ∃ p, (⟨l, cap⟩ : Resolver).findExported ws program name (.start before serial) =
          (.ok found, p) ∧ p.visited = q.visited := by
  have files {first : Config} (start : first.progress.acts = []) {c : Config}
      (reaches : Reaches ⟨l, cap'⟩ ws first c) : LoadsRegular ws c.progress.acts :=
    reaches.induction (P := fun c => LoadsRegular ws c.progress.acts)
      (by rw [LoadsRegular, start]; simp) fun c c' => loadsRegular_step
  constructor
  · intro edge name found q first ends enough
    have low (c : Config) (reaches : Reaches ⟨l, cap'⟩ ws first c) :
        (c.openFrames ⟨l, cap'⟩ ws : Int) ≤ cap := by
      rcases enough with few | low
      · have most := (orderly_request reaches).openFrames_le (files rfl reaches)
        rw [Option.toList_none, List.length_nil] at most
        omega
      · exact low c reaches
    obtain ⟨p, eq, alike⟩ :=
      run_follows le (fun c reaches => (orderly_request reaches).below) low ends (.level (.refl _))
    exact ⟨p, eq, alike.visited.symm⟩
  · intro program name found q first ends enough
    have low (c : Config) (reaches : Reaches ⟨l, cap'⟩ ws first c) :
        (c.openFrames ⟨l, cap'⟩ ws : Int) ≤ cap := by
      rcases enough with few | low
      · have most := (orderly_module reaches).openFrames_le (files rfl reaches)
        rw [Option.toList_some, List.length_singleton] at most
        omega
      · exact low c reaches
    obtain ⟨p, eq, alike⟩ :=
      run_follows le (fun c reaches => (orderly_module reaches).below) low ends (.level (.refl _))
    exact ⟨p, eq, alike.visited.symm⟩

namespace TwoModules

/-- The two regular files. -/
theorem ncard_regular : {loc | workspace.world.IsRegular loc}.ncard ≤ 2 := by
  have sub : {loc | workspace.world.IsRegular loc} ⊆ {["a.js"], ["b.js"]} := by
    intro loc regular
    have mem : loc ∈ workspace.world.locations := World.IsRegular.mem_locations regular
    simpa [World.locations, workspace] using mem
  have pair : Set.ncard {["a.js"], ["b.js"]} = 2 :=
    Set.ncard_pair (by decide : ["a.js"] ≠ ["b.js"])
  exact pair ▸ Set.ncard_le_ncard sub (Set.toFinite _)

/-- A resolver that allows for many more modules. -/
def roomy : Resolver := ⟨Locator.default, 1000⟩

open Recursive in
/-- The first module finds the name in the second one, which asks the first one in vain. -/
theorem module_roomy {p : Progress} (visited : p.visited = [first]) (serial : Nat) :
    ∃ found p', module (asker roomy workspace 1) (firstProgram serial) "x" p =
      (.ok (some found), p') := by
  have asks (depth : Nat) (room : (depth : Int) < roomy.maxDepth) :
      asker roomy workspace depth = visit roomy workspace (asker roomy workspace (depth + 1)) := by
    rw [asker, if_pos room, request_eq]
  have fresh : second ∉ p.visited := by
    rw [visited]
    decide
  obtain ⟨q, visited', -, eq⟩ := visit_of_leads (r := roomy) (asker roomy workspace 2) "x"
    (leads_first serial) fresh (load_second p.serial first)
  have old : first ∈ q.visited := by
    rw [visited', visited]
    decide
  obtain ⟨events, eq'⟩ := visit_of_visited (r := roomy) (asker roomy workspace 3) "x"
    (leads_second p.serial) old
  refine ⟨exported (secondProgram p.serial), q.record events, ?_⟩
  rw [asks 1 (by decide), module_eq, agenda_first, forAll_singleton, perform, eq,
    asks 2 (by decide), module_eq, agenda_second, forAll, perform, eq']
  rfl

theorem resolve_roomy :
    ∃ found p, roomy.resolve workspace (wildcard (secondProgram 0)) "x" (.start [] 0) =
      (.ok found, p) := by
  obtain ⟨p, visited, -, eq⟩ := Recursive.visit_of_leads (r := roomy) (p := .start [] 0)
    (Recursive.asker roomy workspace 1) "x" (leads_second 0) List.not_mem_nil (load_first 0 second)
  obtain ⟨found, p', eq'⟩ := module_roomy visited 0
  refine ⟨some found, p', ?_⟩
  rw [resolve_eq, Recursive.resolve, Recursive.request_eq, eq, eq']

theorem find_roomy :
    ∃ found p, roomy.findExported workspace (firstProgram 0) "x" (.start [first] 0) =
      (.ok found, p) := by
  obtain ⟨found, p, eq⟩ := module_roomy (p := .start [first] 0) rfl 0
  refine ⟨some found, p, ?_⟩
  rw [findExported_eq, Recursive.findExported, eq]

end TwoModules

open TwoModules in
/-- A cap of two is enough for two modules, and a cap of three if one is given. -/
theorem cap_transparent_two_modules :
    (∃ found p q,
      roomy.resolve workspace (wildcard (secondProgram 0)) "x" (.start [] 0) = (.ok found, q) ∧
      (⟨Locator.default, 2⟩ : Resolver).resolve workspace (wildcard (secondProgram 0)) "x"
        (.start [] 0) = (.ok found, p) ∧ p.visited = q.visited) ∧
    ∃ found p q,
      roomy.findExported workspace (firstProgram 0) "x" (.start [first] 0) = (.ok found, q) ∧
      (⟨Locator.default, 3⟩ : Resolver).findExported workspace (firstProgram 0) "x"
        (.start [first] 0) = (.ok found, p) ∧ p.visited = q.visited := by
  have two : ({loc | workspace.world.IsRegular loc}.ncard : Int) ≤ 2 := by
    exact_mod_cast ncard_regular
  constructor
  · obtain ⟨found, q, large⟩ := resolve_roomy
    have le : (2 : Int) ≤ 1000 := by decide
    obtain ⟨p, small, same⟩ :=
      (cap_transparent Locator.default workspace [] 0 le).1 _ _ found q large (.inl two)
    exact ⟨found, p, q, large, small, same⟩
  · obtain ⟨found, q, large⟩ := find_roomy
    have le : (3 : Int) ≤ 1000 := by decide
    obtain ⟨p, small, same⟩ :=
      (cap_transparent Locator.default workspace [first] 0 le).2 _ _ found q large (.inl (by omega))
    exact ⟨found, p, q, large, small, same⟩

end ExportTrail.Search
