import ExportTrail.Proofs.Search.Turns
import ExportTrail.Proofs.Search.Visit

/-!
# The stack of a run

Every run ends, and at each of its turns the stack is in order (`Orderly`): it is no higher than the
resolver allows, all frames but the one on top have entered a module, and they have entered
different ones (`Standing`). A turn keeps this (`Orderly.step`), because a frame only enters a
module that is not visited, and the modules of all other frames are.
-/

namespace ExportTrail.Search

/-- Whether modules stand open in a search: each was loaded to the given tree, they are different
from one another and from those visited before, and they are visited now. -/
structure Standing (before : List Path) (p : Progress) (entered : List (Path × Cursor)) : Prop where
  loaded : ∀ e ∈ entered, .load e.1 (.ok e.2) ∈ p.acts
  nodup : (entered.map Prod.fst).Nodup
  fresh : ∀ e ∈ entered, e.1 ∉ before
  visited : ∀ e ∈ entered, e.1 ∈ p.visited

namespace Standing

variable {before : List Path} {p q : Progress} {entered : List (Path × Cursor)}

theorem nil (before : List Path) (p : Progress) : Standing before p [] where
  loaded := by simp
  nodup := List.nodup_nil
  fresh := by simp
  visited := by simp

theorem mono (h : Standing before p entered) (acts : p.acts ⊆ q.acts)
    (visited : p.visited ⊆ q.visited) : Standing before q entered where
  loaded e mem := acts (h.loaded e mem)
  nodup := h.nodup
  fresh := h.fresh
  visited e mem := visited (h.visited e mem)

theorem tail {e : Path × Cursor} (h : Standing before p (e :: entered)) :
    Standing before p entered where
  loaded e' mem := h.loaded e' (List.mem_cons_of_mem e mem)
  nodup := (List.nodup_cons.1 h.nodup).2
  fresh e' mem := h.fresh e' (List.mem_cons_of_mem e mem)
  visited e' mem := h.visited e' (List.mem_cons_of_mem e mem)

/-- The module that is entered next is different from all that stand open, as these are visited. -/
theorem cons {m : Path} {program : Cursor} (h : Standing before p entered)
    (grown : before ⊆ p.visited) (new : m ∉ p.visited) (acts : p.acts ⊆ q.acts)
    (loaded : .load m (.ok program) ∈ q.acts) (visited : q.visited = m :: p.visited) :
    Standing before q ((m, program) :: entered) where
  loaded := List.forall_mem_cons.2 ⟨loaded, fun e mem => acts (h.loaded e mem)⟩
  nodup := by
    refine List.nodup_cons.2 ⟨fun mem => ?_, h.nodup⟩
    obtain ⟨e, he, rfl⟩ := List.mem_map.1 mem
    exact new (h.visited e he)
  fresh := List.forall_mem_cons.2 ⟨fun old => new (grown old), h.fresh⟩
  visited := by
    rw [visited]
    exact List.forall_mem_cons.2
      ⟨List.mem_cons_self, fun e mem => List.mem_cons_of_mem m (h.visited e mem)⟩

end Standing

/-- Whether the stack of a configuration is in order, in a run that begins with some modules visited
and, possibly, with the search of a given tree. -/
structure Orderly (r : Resolver) (given : Option Cursor) (before : List Path) (c : Config) :
    Prop where
  /-- There are no more frames than may be on a chain. The first one always has its place. -/
  height : (c.stack.length : Int) ≤ max 1 r.maxDepth
  /-- All frames below the one on top search a module. -/
  below : ∀ frame ∈ c.stack.tail, frame.program?.isSome
  /-- The modules visited at the start stay visited. -/
  grown : before ⊆ c.progress.visited
  /-- The trees that the frames search are those of modules that stand open, and then the given
  one. -/
  modules : c.stack ≠ [] → ∃ entered : List (Path × Cursor),
    c.stack.filterMap Frame.program? = entered.map Prod.snd ++ given.toList ∧
      Standing before c.progress entered

variable {r : Resolver} {ws : Workspace}

/-! ## A turn -/

/-- A turn takes nothing from what was done and visited. -/
theorem Resumes.grows {answer : Option Cursor} {p : Progress} {frame : Frame} {turn : Turn}
    {q : Progress} (h : Resumes r ws answer p frame (turn, q))
    (goesOn : ∀ failure, turn ≠ .failed failure) :
    p.acts ⊆ q.acts ∧ p.visited ⊆ q.visited := by
  cases h with
  | idle events => exact ⟨List.Subset.refl _, List.Subset.refl _⟩
  | failed failure => exact absurd rfl (goesOn failure)
  | entered events => exact ⟨by simp, by simp⟩
  | begins works => exact ⟨List.Subset.refl _, List.Subset.refl _⟩
  | goesOn works => exact ⟨List.Subset.refl _, List.Subset.refl _⟩

/-- A frame that waits after its turn goes on with the module it searched, or it is a request that
has entered one. -/
theorem Resumes.waits {answer : Option Cursor} {p q : Progress} {frame waiting : Frame}
    {edge : Cursor} {name : String}
    (h : Resumes r ws answer p frame (.asks edge name waiting, q)) :
    (waiting.program?.isSome ∧ waiting.program? = frame.program? ∧ q = p) ∨
      ∃ m program, frame.program? = none ∧ waiting.program? = some program ∧ m ∉ p.visited ∧
        q.visited = m :: p.visited ∧ .load m (.ok program) ∈ q.acts := by
  cases h with
  | entered events leads fresh loads works =>
    cases works with
    | asks => exact .inr ⟨_, _, rfl, rfl, fresh, rfl, by simp [loads]⟩
  | begins works => cases works with | asks => exact .inl ⟨rfl, rfl, rfl⟩
  | goesOn works => cases works with | asks => exact .inl ⟨rfl, rfl, rfl⟩

theorem length_filterMap_program? {frames : List Frame}
    (all : ∀ frame ∈ frames, frame.program?.isSome) :
    (frames.filterMap Frame.program?).length = frames.length := by
  rw [List.length_filterMap_eq_countP, List.countP_eq_length]
  exact all

namespace Orderly

variable {given : Option Cursor} {before : List Path}

/-- A frame is taken from the stack. -/
theorem pop {frame : Frame} {below : List Frame} {answer result : Option Cursor} {p q : Progress}
    (h : Orderly r given before ⟨frame :: below, answer, p⟩) (acts : p.acts ⊆ q.acts)
    (visited : p.visited ⊆ q.visited) : Orderly r given before ⟨below, result, q⟩ where
  height := by
    have height := h.height
    simp only [List.length_cons] at height ⊢
    omega
  below frame' mem := h.below frame' (List.mem_of_mem_tail mem)
  grown := List.Subset.trans h.grown visited
  modules := by
    intro more
    obtain ⟨entered, searched, standing⟩ := h.modules (List.cons_ne_nil _ _)
    have standing := standing.mono acts visited
    cases search : frame.program? with
    | none =>
      rw [List.filterMap_cons_none search] at searched
      exact ⟨entered, searched, standing⟩
    | some program =>
      rw [List.filterMap_cons_some search] at searched
      cases entered with
      | nil =>
        -- the frame searched the given tree, so that it was the last one
        have last : below.filterMap Frame.program? = [] := by
          cases given with
          | none => cases searched
          | some tree => exact (List.cons.inj searched).2
        have all : ∀ frame ∈ below, frame.program?.isSome := h.below
        have void := length_filterMap_program? all
        rw [last] at void
        exact absurd (List.length_eq_zero_iff.1 void.symm) more
      | cons e entered => exact ⟨entered, (List.cons.inj searched).2, standing.tail⟩

/-- The frame on top waits after its turn. -/
theorem wait {frame waiting : Frame} {below : List Frame} {answer : Option Cursor} {p q : Progress}
    {edge : Cursor} {name : String}
    (h : Orderly r given before ⟨frame :: below, answer, p⟩)
    (turn : Resumes r ws answer p frame (.asks edge name waiting, q)) :
    waiting.program?.isSome ∧ Orderly r given before ⟨waiting :: below, none, q⟩ := by
  obtain ⟨acts, visited⟩ := turn.grows (by simp)
  obtain ⟨entered, searched, standing⟩ := h.modules (List.cons_ne_nil _ _)
  have standing' := standing.mono acts visited
  have grown := List.Subset.trans h.grown visited
  rcases turn.waits with ⟨search, same, rfl⟩ | ⟨m, program, idle, search, fresh, adds, loaded⟩
  · refine ⟨search, h.height, h.below, grown, fun _ => ⟨entered, ?_, standing'⟩⟩
    rw [← searched, List.filterMap_cons, List.filterMap_cons, same]
  · refine ⟨by rw [search]; rfl, h.height, h.below, grown, fun _ => ⟨(m, program) :: entered, ?_,
      standing.cons h.grown fresh acts loaded adds⟩⟩
    rw [List.filterMap_cons_none idle] at searched
    rw [List.filterMap_cons_some search, searched]
    rfl

/-- Every turn keeps the stack in order. -/
theorem step {c c' : Config} (moves : Moves r ws c c') (h : Orderly r given before c) :
    Orderly r given before c' := by
  cases moves with
  | finished turn =>
    obtain ⟨acts, visited⟩ := turn.grows (by simp)
    exact h.pop acts visited
  | refused turn full =>
    obtain ⟨-, orderly⟩ := h.wait turn
    refine ⟨orderly.height, orderly.below, orderly.grown, fun _ => ?_⟩
    obtain ⟨entered, searched, standing⟩ := orderly.modules (List.cons_ne_nil _ _)
    exact ⟨entered, searched, standing.mono (List.Subset.refl _) (List.Subset.refl _)⟩
  | @pushed frame waiting below answer p q edge name turn room =>
    obtain ⟨search, orderly⟩ := h.wait turn
    refine ⟨?_, List.forall_mem_cons.2 ⟨search, orderly.below⟩, orderly.grown, fun _ => ?_⟩
    · simp only [List.length_cons]
      omega
    · exact orderly.modules (List.cons_ne_nil _ _)

end Orderly

/-! ## A run -/

theorem orderly_request {before : List Path} {edge : Cursor} {name : String} {serial : Nat}
    {c : Config} (h : Reaches r ws ⟨[.request edge name], none, .start before serial⟩ c) :
    Orderly r none before c := by
  refine h.induction ?_ fun c c' => Orderly.step
  refine ⟨?_, by simp, List.Subset.refl _, fun _ => ⟨[], rfl, .nil _ _⟩⟩
  show ((1 : Nat) : Int) ≤ max 1 r.maxDepth
  omega

theorem orderly_module {before : List Path} {program : Cursor} {name : String} {serial : Nat}
    {c : Config} (h : Reaches r ws ⟨[.module program name], none, .start before serial⟩ c) :
    Orderly r (some program) before c := by
  refine h.induction ?_ fun c c' => Orderly.step
  refine ⟨?_, by simp, List.Subset.refl _, fun _ => ⟨[], rfl, .nil _ _⟩⟩
  show ((1 : Nat) : Int) ≤ max 1 r.maxDepth
  omega

/-- **Every search ends, and its stack is always in order.** However the modules of a world refer to
one another, and however many modules a resolver allows on a chain, the machine comes to its last
turn. At every turn the stack has at most as many frames as the resolver allows, and one if it
allows less; all frames but the one on top have entered a module; and the modules that the frames
have entered are different from one another, were not visited before the search, and are visited
now. In the search of a tree that is already parsed this holds of all frames but the lowest, which
searches that tree. -/
theorem searches_end_orderly (r : Resolver) (ws : Workspace) (before : List Path) (serial : Nat) :
    (∀ edge name,
      let first : Config := ⟨[.request edge name], none, .start before serial⟩
      (∃ last outcome p, Reaches r ws first last ∧ step r ws last = .done outcome p) ∧
        ∀ c, Reaches r ws first c → Orderly r none before c) ∧
    ∀ program name,
      let first : Config := ⟨[.module program name], none, .start before serial⟩
      (∃ last outcome p, Reaches r ws first last ∧ step r ws last = .done outcome p) ∧
        ∀ c, Reaches r ws first c → Orderly r (some program) before c := by
  have ends (first : Config) :
      ∃ last outcome p, Reaches r ws first last ∧ step r ws last = .done outcome p := by
    obtain ⟨last, reaches, done⟩ := run_ends r ws first
    exact ⟨last, _, _, reaches, done⟩
  exact ⟨fun edge name => ⟨ends _, fun c => orderly_request⟩,
    fun program name => ⟨ends _, fun c => orderly_module⟩⟩

open TwoModules in
/-- In a search of two modules that refer to each other, both stand open after two turns. -/
theorem searches_end_orderly_two_modules :
    ∃ c, Reaches resolver workspace
        ⟨[.request (wildcard (secondProgram 0)) "x"], none, .start [] 0⟩ c ∧
      c.stack.length = 2 ∧ c.progress.visited = [second, first] ∧ Orderly resolver none [] c := by
  obtain ⟨q₁, visited₁, turn₁⟩ := step_of_leads (p := .start [] 0) "x" [] none (leads_second 0)
    List.not_mem_nil (load_first 0 second)
  have fresh : second ∉ q₁.visited := by
    rw [visited₁]
    show second ∉ [first]
    decide
  rw [agenda_first] at turn₁
  let outer : Frame := .waiting (firstProgram 0) false [] none
  obtain ⟨q₂, visited₂, turn₂⟩ := step_of_leads "x" [outer] none (leads_first 0) fresh
    (load_second q₁.serial first)
  rw [agenda_second] at turn₂
  have reaches : Reaches resolver workspace
      ⟨[.request (wildcard (secondProgram 0)) "x"], none, .start [] 0⟩ _ :=
    .tail (.tail .refl turn₁) turn₂
  refine ⟨_, reaches, rfl, ?_, ((searches_end_orderly resolver workspace [] 0).1 _ _).2 _ reaches⟩
  show q₂.visited = [second, first]
  rw [visited₂, visited₁]
  rfl

end ExportTrail.Search
