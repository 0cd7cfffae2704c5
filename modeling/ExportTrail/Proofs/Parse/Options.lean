import ExportTrail.Locator
import ExportTrail.Proofs.Export.Gathered

/-!
# Options of the nodes of a parse

The options that a module is read with are attached to the root of its tree. A statement of the
module has these options, or none of them if a node of the kind of a root stands between
(`options_of_statement`); without options no specifier leads anywhere. Reading a module depends on
its own name and on the rest of the options, not on the file that they come from (`load_congr`).
-/

namespace ExportTrail

namespace Cursor

theorem options_top (n : Node) (o : Option Options) :
    (Cursor.top n o).options = if n.kind = programKind then o.getD Options.empty
      else Options.empty := by
  rw [options, ancestors, List.find?_singleton]
  by_cases h : n.kind = programKind <;> simp [kind, node, h, attached]

theorem options_via (p : Cursor) (n : Node) :
    (Cursor.via p n).options = if n.kind = programKind then Options.empty else p.options := by
  rw [options, ancestors, List.find?_cons]
  by_cases h : n.kind = programKind
  · simp [kind, node, h, attached]
  · simp [kind, node, h, options]

/-- Whether a cursor was reached from another one. -/
inductive Under (c : Cursor) : Cursor → Prop
  | refl : Under c c
  | via {p : Cursor} (n : Node) (up : Under c p) : Under c (.via p n)

theorem Under.trans {a b c : Cursor} (h : Under a b) (h' : Under b c) : Under a c := by
  induction h' with
  | refl => exact h
  | via n _ ih => exact .via n ih

theorem under_of_mem_namedChildren {c d : Cursor} (h : d ∈ c.namedChildren) : Under c d := by
  obtain ⟨n, -, rfl⟩ := List.mem_map.1 h
  exact .via n .refl

/-- Below a cursor all nodes have its options, or none. -/
theorem Under.options {c d : Cursor} (h : Under c d) :
    d.options = c.options ∨ d.options = Options.empty := by
  induction h with
  | refl => exact .inl rfl
  | via n _ ih =>
    rw [options_via]
    split
    · exact .inr rfl
    · exact ih

/-- Below a root with given options all nodes have these options, or none. -/
theorem options_of_under {n : Node} {o : Options} {c : Cursor}
    (h : Under (.top n (some o)) c) : c.options = o ∨ c.options = Options.empty := by
  rcases h.options with same | none
  · rw [same, options_top]
    split
    · exact .inl rfl
    · exact .inr rfl
  · exact .inr none

end Cursor

namespace Export

/-- What holds of a module, and of the named children of whatever it holds of, holds of the export
statements. -/
theorem mem_statements_induction {P : Cursor → Prop} {program s : Cursor} (first : P program)
    (closed : ∀ c d, P c → d ∈ c.namedChildren → P d) (h : s ∈ statements program) : P s := by
  obtain ⟨-, way⟩ := mem_statements_iff.1 h
  clear h
  induction way with
  | here => exact first
  | child _ _ mem ih => exact closed _ _ ih (List.mem_map_of_mem mem)

theorem under_of_mem_statements {program s : Cursor} (h : s ∈ statements program) :
    Cursor.Under program s :=
  mem_statements_induction .refl
    (fun _ _ above mem => above.trans (Cursor.under_of_mem_namedChildren mem)) h

end Export

namespace Workspace

variable {ws : Workspace}

/-- What is parsed without a failure is the tree that a grammar makes of the source, unflagged. -/
theorem parseWith_ok {grammars : Grammars} {choice : GrammarChoice} {o : Options} {serial : Nat}
    {source : List UInt8} {program : Cursor}
    (h : (parseWith grammars choice o serial source).outcome = .ok program) :
    ∃ dialect, (grammars dialect source).hasError = false ∧
      program = .top (Node.root serial source (grammars dialect source).tree) (some o) := by
  have sound {p : Parse} (h : p.firstFlagged? = none) : p.hasError = false := by
    simpa [Parse.firstFlagged?] using h
  unfold parseWith at h
  dsimp only at h
  split at h
  · next none =>
    cases h
    exact ⟨_, sound none, rfl⟩
  · split at h
    · cases h
    · split at h
      · next none =>
        cases h
        exact ⟨_, sound none, rfl⟩
      · cases h

/-- A module that is loaded is the root of such a tree, with the options that it was loaded with. -/
theorem load_ok {o : Options} {module : Path} {serial : Nat} {program : Cursor}
    (h : (ws.load serial module o).outcome = .ok program) :
    ∃ dialect source, (ws.grammars dialect source).hasError = false ∧
      program = .top (Node.root serial source (ws.grammars dialect source).tree)
        (some (o.forFile module)) := by
  unfold load loadAs at h
  split at h
  · cases h
  · dsimp only at h
    split at h
    · cases h
    · obtain ⟨dialect, sound, rfl⟩ := parseWith_ok h
      exact ⟨dialect, _, sound, rfl⟩

theorem options_of_statement {o : Options} {module : Path} {serial : Nat} {program s : Cursor}
    (h : (ws.load serial module o).outcome = .ok program) (hs : s ∈ Export.statements program) :
    s.options = o.forFile module ∨ s.options = Options.empty := by
  obtain ⟨dialect, source, -, rfl⟩ := load_ok h
  exact Cursor.options_of_under (Export.under_of_mem_statements hs)

theorem load_congr {o o' : Options} {module : Path} (h : o.forFile module = o'.forFile module)
    (serial : Nat) : ws.load serial module o = ws.load serial module o' := by
  unfold load loadAs
  rw [h]

end Workspace

@[simp] theorem Options.forFile_forFile (o : Options) (m m' : Path) :
    (o.forFile m).forFile m' = o.forFile m' := rfl

theorem Locator.locateFor_empty (l : Locator) (ws : Workspace) (specifier : String) :
    (l.locateFor ws specifier Options.empty).outcome = .ok none := by
  rw [locateFor]
  split <;> rfl

/-- Retargeting options that name a file does not change where a specifier leads. -/
theorem Locator.locateFor_forFile (l : Locator) (ws : Workspace) {o : Options}
    (configured : o.filename.isSome) (m : Path) (specifier : String) :
    l.locateFor ws specifier (o.forFile m) = l.locateFor ws specifier o := by
  obtain ⟨filename, named⟩ := Option.isSome_iff_exists.1 configured
  have same : (o.forFile m).root = o.root := rfl
  have renamed : (o.forFile m).filename = some m := rfl
  rw [locateFor, locateFor, named, same, renamed]
  cases o.root with
  | none => rfl
  | some root => rfl

end ExportTrail
