import ExportTrail.Proofs.Export.Agenda
import ExportTrail.Proofs.Search.Visit

/-!
# Whatever is found is exported

A node that a search finds is a local match of some module, and a chain of statements passes the name
on to that module (`found_by_chain`). The modules of the chain are different from one another and
from those that were visited before, and there are no more of them than the resolver allows.

The proof goes along the recursion: `forAll_found` traces a result back to the item of the agenda
that it comes from, and `Sound` is what holds of the answers at one place of the chain.
-/

namespace ExportTrail.Search

variable (r : Resolver) (ws : Workspace)

/-- Whether a name that a module is asked for is passed on from module to module until the last one
has a local match for the name that it is asked for in turn. The list has the other modules of the
chain, each with the name it is asked for. -/
inductive Chain : Cursor → String → List (Path × String) → Cursor → Prop
  /-- The module has a local match. -/
  | here {program : Cursor} {name : String} {found : Cursor}
    (hit : Export.LocalMatch program name found) : Chain program name [] found
  /-- A statement of the module passes the name on. -/
  | onward {program s : Cursor} {name name' : String} {m : Path} {program' : Cursor}
    {chain : List (Path × String)} {found : Cursor} (mem : s ∈ Export.statements program)
    (forwards : Export.Forwards name s name') (leads : Leads r ws s m)
    (reads : Reads ws s.options m program') (rest : Chain program' name' chain found) :
    Chain program name ((m, name') :: chain) found

/-- Whether modules are different from one another and from the visited ones. -/
structure Fresh (visited modules : List Path) : Prop where
  nodup : modules.Nodup
  avoids : ∀ m ∈ modules, m ∉ visited

variable {r ws}

theorem Fresh.mono {visited visited' modules : List Path} (h : Fresh visited' modules)
    (sub : visited ⊆ visited') : Fresh visited modules :=
  ⟨h.nodup, fun m hm hv => h.avoids m hm (sub hv)⟩

theorem Fresh.cons {visited modules : List Path} {m : Path} (h : Fresh (m :: visited) modules)
    (hm : m ∉ visited) : Fresh visited (m :: modules) where
  nodup := List.nodup_cons.2 ⟨fun mem => h.avoids m mem List.mem_cons_self, h.nodup⟩
  avoids := by
    intro m' mem hv
    rcases List.mem_cons.1 mem with rfl | mem
    · exact hm hv
    · exact h.avoids m' mem (List.mem_cons_of_mem m hv)

theorem fresh_nil (visited : List Path) : Fresh visited [] := ⟨List.nodup_nil, by simp⟩

namespace Recursive

theorem absorb_eq_some {clears : Bool} {result answer : Option Cursor} {found : Cursor}
    (h : absorb clears result answer = some found) : answer = some found ∨ result = some found := by
  cases clears with
  | true => exact .inl h
  | false =>
    cases answer with
    | none => exact .inr h
    | some c => exact .inl h

/-- What the work on an agenda finds was found before, is settled by an item, or answers a request
that is made when at least the modules visited at first are visited. -/
theorem forAll_found {ask : Ask} (grows : Grows ask) {items : List Export.Item}
    {result : Option Cursor} {p p' : Progress} {found : Cursor}
    (h : forAll (perform ask) items result p = (.ok (some found), p')) :
    result = some found ∨ .settle (some found) ∈ items ∨
      ∃ edge name clears q q', .ask edge name clears ∈ items ∧ p.visited ⊆ q.visited ∧
        ask edge name q = (.ok (some found), q') := by
  induction items generalizing result p with
  | nil =>
    rw [forAll_nil] at h
    exact .inl (by simpa using congrArg Prod.fst h)
  | cons item items ih =>
    cases item with
    | settle settled =>
      rcases ih h with rfl | mem | ⟨edge, name, clears, q, q', mem, sub, answer⟩
      · exact .inr (.inl List.mem_cons_self)
      · exact .inr (.inl (List.mem_cons_of_mem _ mem))
      · exact .inr (.inr ⟨edge, name, clears, q, q', List.mem_cons_of_mem _ mem, sub, answer⟩)
    | ask edge name clears =>
      rw [forAll, perform] at h
      have first := grows edge name p
      rcases asked : ask edge name p with ⟨e | answer, q⟩
      · simp [asked] at h
      · rw [asked] at h first
        rcases ih h with absorbed | mem | ⟨edge', name', clears', q', q'', mem, sub, answer'⟩
        · rcases absorb_eq_some absorbed with rfl | rfl
          · exact .inr (.inr ⟨edge, name, clears, p, q, List.mem_cons_self, List.Subset.refl _,
              asked⟩)
          · exact .inl rfl
        · exact .inr (.inl (List.mem_cons_of_mem _ mem))
        · exact .inr (.inr ⟨edge', name', clears', q', q'', List.mem_cons_of_mem _ mem,
            List.Subset.trans first sub, answer'⟩)

variable (r ws) in
/-- Whether every node that is found in answer to a request at a place of the chain is at the end of
a chain of fresh modules that fits behind that place. -/
def Sound (depth : Nat) (ask : Ask) : Prop :=
  ∀ edge name p found p', ask edge name p = (.ok (some found), p') →
    ∃ m program chain, Leads r ws edge m ∧ Reads ws edge.options m program ∧
      Chain r ws program name chain found ∧ Fresh p.visited (m :: chain.map Prod.fst) ∧
      ((depth + chain.length : Nat) : Int) ≤ max 1 r.maxDepth

theorem sound_refuse (depth : Nat) : Sound r ws depth (refuse r) := by
  intro edge name p found p' h
  simp [refuse] at h

/-- A module that makes sound requests finds nodes at the end of a chain. -/
theorem sound_module {depth : Nat} {ask : Ask} (le : (depth : Int) ≤ max 1 r.maxDepth)
    (grows : Grows ask) (sound : Sound r ws (depth + 1) ask) {program : Cursor} {name : String}
    {p p' : Progress} {found : Cursor}
    (h : module ask program name p = (.ok (some found), p')) :
    ∃ chain, Chain r ws program name chain found ∧ Fresh p.visited (chain.map Prod.fst) ∧
      ((depth + chain.length : Nat) : Int) ≤ max 1 r.maxDepth := by
  rw [module_eq] at h
  rcases forAll_found grows h with none | settled | ⟨edge, name', clears, q, q', mem, sub, answer⟩
  · cases none
  · exact ⟨[], .here (Export.settle_mem_agenda_iff.1 settled), fresh_nil _, by simpa using le⟩
  · obtain ⟨hs, forwards⟩ := Export.forwards_of_mem_agenda mem
    obtain ⟨m, program', chain, leads, reads, rest, fresh, short⟩ :=
      sound edge name' q found q' answer
    refine ⟨(m, name') :: chain, .onward hs forwards leads reads rest, fresh.mono sub, ?_⟩
    rw [List.length_cons]
    omega

theorem sound_visit {depth : Nat} {ask : Ask} (le : (depth : Int) ≤ max 1 r.maxDepth)
    (grows : Grows ask) (sound : Sound r ws (depth + 1) ask) :
    Sound r ws depth (visit r ws ask) := by
  intro edge name p found p' h
  have visiting := visit_visiting r ws ask edge name p
  rw [h] at visiting
  generalize hv : (Except.ok (some found), p') = ended at visiting
  cases visiting with
  | idle events => simp at hv
  | lost events => simp at hv
  | broken events => simp at hv
  | @entered m program events leads fresh loads =>
    obtain ⟨chain, rest, apart, short⟩ := sound_module le grows sound hv.symm
    exact ⟨m, program, chain, leads, ⟨_, loads⟩, rest, apart.cons fresh, short⟩

theorem sound_asker (depth : Nat) : Sound r ws (depth + 1) (asker r ws depth) := by
  have both : Grows (asker r ws depth) ∧ Sound r ws (depth + 1) (asker r ws depth) :=
    asker_induction (P := fun depth ask => Grows ask ∧ Sound r ws depth ask)
      (fun depth _ => ⟨grows_refuse, sound_refuse _⟩)
      (fun depth ask le h => ⟨grows_visit h.1, sound_visit le h.1 h.2⟩) depth
  exact both.2

end Recursive

open Recursive

/-- **Whatever is found is exported.** If a search finds a node for a name, then the edge leads to a
module, and from there a chain of statements that are not for types only passes the name on, each to
the module its source leads to: a wildcard as it is, a specifier as its local name. The node is a
local match of the last module. The modules are different from one another and from those visited
before, and there are at most as many as the resolver allows. The same holds of a module that is
already parsed; it is then the first of its chain, and it may be among the others. -/
theorem found_by_chain (positive : 1 ≤ r.maxDepth) :
    (∀ edge name p found p', r.resolve ws edge name p = (.ok (some found), p') →
      ∃ m program chain, Leads r ws edge m ∧ Reads ws edge.options m program ∧
        Chain r ws program name chain found ∧ Fresh p.visited (m :: chain.map Prod.fst) ∧
        ((chain.length + 1 : Nat) : Int) ≤ r.maxDepth) ∧
    ∀ program name p found p', r.findExported ws program name p = (.ok (some found), p') →
      ∃ chain, Chain r ws program name chain found ∧ Fresh p.visited (chain.map Prod.fst) ∧
        ((chain.length + 1 : Nat) : Int) ≤ r.maxDepth := by
  have cap : max 1 r.maxDepth = r.maxDepth := Int.max_eq_right positive
  constructor
  · intro edge name p found p' h
    rw [resolve_eq, Recursive.resolve, request_eq] at h
    obtain ⟨m, program, chain, leads, reads, rest, fresh, short⟩ :=
      sound_visit (by omega) (grows_asker 1) (sound_asker 1) edge name p found p' h
    exact ⟨m, program, chain, leads, reads, rest, fresh, by omega⟩
  · intro program name p found p' h
    rw [findExported_eq] at h
    obtain ⟨chain, rest, fresh, short⟩ :=
      sound_module (by omega) (grows_asker 1) (sound_asker 1) h
    exact ⟨chain, rest, fresh, by omega⟩

open TwoModules in
/-- What a search of two modules that refer to each other finds. -/
theorem found_by_chain_two_modules :
    1 ≤ resolver.maxDepth ∧ ∃ found m program chain,
      Leads resolver workspace (wildcard (secondProgram 0)) m ∧
        Reads workspace (wildcard (secondProgram 0)).options m program ∧
        Chain resolver workspace program "x" chain found ∧ Fresh [] (m :: chain.map Prod.fst) ∧
        ((chain.length + 1 : Nat) : Int) ≤ resolver.maxDepth := by
  have positive : 1 ≤ resolver.maxDepth := by decide
  obtain ⟨found, p', h⟩ := resolve_two_modules 0
  exact ⟨positive, found, (found_by_chain positive).1 _ _ _ found p' h⟩

end ExportTrail.Search
