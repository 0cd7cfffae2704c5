import ExportTrail.Proofs.Export.Agenda
import ExportTrail.Proofs.Parse.Options
import ExportTrail.Proofs.Parse.Serial
import ExportTrail.Proofs.Search.Visit
import Mathlib.Data.Set.Card

/-!
# Modules reached along wildcards

`Reached` are the modules that wildcards lead to from an edge without passing through given ones.
They are finitely many, and a chain of as many modules as are reached has all of them
(`Trail.mem_of_full`). `Spreads` says that modules are visited as wildcards are followed, and `Gains`
that a module with a local match is among them; both go together from one stretch of a search to the
next.
-/

namespace ExportTrail.Search

variable (r : Resolver) (ws : Workspace)

/-- Whether a module, read with given options, has a local match for a name. -/
def Hits (o : Options) (name : String) (m : Path) : Prop :=
  ∃ program found, Reads ws o m program ∧ Export.LocalMatch program name found

/-- Whether a wildcard of a module, read with given options, leads to another module. -/
def Onto (o : Options) (m m' : Path) : Prop :=
  ∃ program s, Reads ws o m program ∧ s ∈ Export.statements program ∧
    Export.form? s = some .wildcard ∧ Leads r ws s m'

/-- The modules that are reached from an edge along wildcards, without passing through those to
avoid. -/
inductive Reached (edge : Cursor) (avoided : List Path) : Path → Prop
  /-- The module that the edge leads to. -/
  | target {m : Path} (leads : Leads r ws edge m) (fresh : m ∉ avoided) : Reached edge avoided m
  /-- A module that a wildcard of a reached one leads to. -/
  | step {m m' : Path} (reached : Reached edge avoided m) (onto : Onto r ws edge.options m m')
    (fresh : m' ∉ avoided) : Reached edge avoided m'

variable {r ws}

/-! ## Reading a module again -/

theorem source?_renumber (k : Nat) (edge : Cursor) : source? (edge.renumber k) = source? edge := by
  rw [source?, source?, Cursor.field?_renumber]
  cases edge.field? "source" with
  | none => rfl
  | some source => exact source.stringValue?_renumber k

theorem leads_renumber {k : Nat} {edge : Cursor} {m : Path} :
    Leads r ws (edge.renumber k) m ↔ Leads r ws edge m := by
  rw [Leads, Leads, source?_renumber, Cursor.options_renumber]

/-- A module is read the same each time, but for the number of the parse. -/
theorem Reads.renumber {o : Options} {m : Path} {serial : Nat} {program program' : Cursor}
    (loaded : (ws.load serial m o).outcome = .ok program) (reads : Reads ws o m program') :
    ∃ k, program' = program.renumber k := by
  obtain ⟨k, again⟩ := reads
  rw [Workspace.load_renumber loaded] at again
  exact ⟨k, (Except.ok.inj again).symm⟩

/-- An edge leads to a file of the world. -/
theorem Leads.mem_locations {edge : Cursor} {m : Path} (h : Leads r ws edge m) :
    m ∈ ws.world.locations.map Location.toPath := by
  obtain ⟨source, -, located⟩ := h
  exact Locator.locateFor_mem_locations located

/-- What the statements of a module lead to is read with the same options as the module. -/
theorem Leads.forFile {o : Options} {m m' : Path} {serial : Nat} {program s : Cursor}
    (leads : Leads r ws s m') (loaded : (ws.load serial m o).outcome = .ok program)
    (mem : s ∈ Export.statements program) : s.options.forFile m' = o.forFile m' := by
  rcases Workspace.options_of_statement loaded mem with same | none
  · rw [same, Options.forFile_forFile]
  · -- without options the statement leads nowhere
    obtain ⟨source, -, located⟩ := leads
    rw [none, Locator.locateFor_empty] at located
    cases located

/-- The local matches of a module are on the agenda of each of its parses. -/
theorem hits_iff {o : Options} {m : Path} {serial : Nat} {program : Cursor} {name : String}
    (loaded : (ws.load serial m o).outcome = .ok program) :
    Hits ws o name m ↔ ∃ found, .settle (some found) ∈ Export.agenda program name := by
  constructor
  · rintro ⟨program', found, reads, hit⟩
    obtain ⟨k, rfl⟩ := reads.renumber loaded
    rw [← Export.settle_mem_agenda_iff, Export.agenda_renumber, List.mem_map] at hit
    obtain ⟨item, mem, eq⟩ := hit
    cases item with
    | ask => cases eq
    | settle result =>
      cases result with
      | none => cases eq
      | some found' => exact ⟨found', mem⟩
  · rintro ⟨found, mem⟩
    exact ⟨program, found, ⟨serial, loaded⟩, Export.settle_mem_agenda_iff.1 mem⟩

/-- So are its wildcards. -/
theorem onto_iff {o : Options} {m m' : Path} {serial : Nat} {program : Cursor} (name : String)
    (loaded : (ws.load serial m o).outcome = .ok program) :
    Onto r ws o m m' ↔
      ∃ s, .ask s name false ∈ Export.agenda program name ∧ Leads r ws s m' := by
  constructor
  · rintro ⟨program', s, reads, mem, form, leads⟩
    obtain ⟨k, rfl⟩ := reads.renumber loaded
    rw [Export.statements_renumber, List.mem_map] at mem
    obtain ⟨s, mem, rfl⟩ := mem
    rw [Export.form?_renumber] at form
    exact ⟨s, Export.wildcard_mem_agenda_iff.2 ⟨mem, form⟩, leads_renumber.1 leads⟩
  · rintro ⟨s, mem, leads⟩
    obtain ⟨mem, form⟩ := Export.wildcard_mem_agenda_iff.1 mem
    exact ⟨program, s, ⟨serial, loaded⟩, mem, form, leads⟩

/-! ## Reached modules -/

section

variable {edge : Cursor} {avoided : List Path}

/-- No module to be avoided is reached. -/
theorem Reached.fresh {m : Path} (h : Reached r ws edge avoided m) : m ∉ avoided := by
  cases h with
  | target _ fresh => exact fresh
  | step _ _ fresh => exact fresh

/-- A reached module is a file of the world. -/
theorem Reached.mem_locations {m : Path} (h : Reached r ws edge avoided m) :
    m ∈ ws.world.locations.map Location.toPath := by
  cases h with
  | target leads _ => exact leads.mem_locations
  | step _ onto _ =>
    obtain ⟨program, s, -, -, -, leads⟩ := onto
    exact leads.mem_locations

/-- There are finitely many of them, so that they can be counted. -/
theorem reached_finite : {m | Reached r ws edge avoided m}.Finite :=
  (ws.world.locations.map Location.toPath).finite_toSet.subset fun _ => Reached.mem_locations

variable (r ws edge avoided) in
/-- Whether some modules form a chain at a point of the search where others, and these, are
visited. -/
structure Trail (chain visited : List Path) : Prop where
  nodup : chain.Nodup
  reached : ∀ m ∈ chain, Reached r ws edge avoided m
  entered : chain ⊆ visited
  avoided : avoided ⊆ visited

namespace Trail

variable {chain visited visited' : List Path}

theorem nil (edge : Cursor) (avoided : List Path) : Trail r ws edge avoided [] avoided where
  nodup := List.nodup_nil
  reached := by simp
  entered := List.nil_subset _
  avoided := List.Subset.refl _

theorem mono (h : Trail r ws edge avoided chain visited) (sub : visited ⊆ visited') :
    Trail r ws edge avoided chain visited' where
  nodup := h.nodup
  reached := h.reached
  entered := List.Subset.trans h.entered sub
  avoided := List.Subset.trans h.avoided sub

/-- A reached module that is entered is the next of the chain. -/
theorem cons (h : Trail r ws edge avoided chain visited) {m : Path}
    (reached : Reached r ws edge avoided m) (fresh : m ∉ visited) :
    Trail r ws edge avoided (m :: chain) (m :: visited) where
  nodup := List.nodup_cons.2 ⟨fun mem => fresh (h.entered mem), h.nodup⟩
  reached := List.forall_mem_cons.2 ⟨reached, h.reached⟩
  entered := List.cons_subset_cons m h.entered
  avoided := List.Subset.trans h.avoided (List.subset_cons_self m visited)

/-- A chain of as many modules as are reached has all of them. -/
theorem mem_of_full (h : Trail r ws edge avoided chain visited)
    (full : {m | Reached r ws edge avoided m}.ncard ≤ chain.length) {m : Path}
    (reached : Reached r ws edge avoided m) : m ∈ visited := by
  have sub : (chain.toFinset : Set Path) ⊆ {m | Reached r ws edge avoided m} := by
    intro m' mem
    exact h.reached m' (by simpa using mem)
  have card : (chain.toFinset : Set Path).ncard = chain.length := by
    rw [Set.ncard_coe_finset, List.toFinset_card_of_nodup h.nodup]
  have all : (chain.toFinset : Set Path) = {m | Reached r ws edge avoided m} :=
    Set.eq_of_subset_of_ncard_le sub (by omega) reached_finite
  have mem : m ∈ (chain.toFinset : Set Path) := by
    rw [all]
    exact reached
  exact h.entered (by simpa using mem)

end Trail

/-! ## What a request adds -/

variable (r ws edge avoided) in
/-- Whether modules are visited as wildcards are followed: those that are added are reached, and
their wildcards lead to visited ones. -/
structure Spreads (before after : List Path) : Prop where
  grown : before ⊆ after
  reached : ∀ m ∈ after, m ∉ before → Reached r ws edge avoided m
  closed : ∀ m ∈ after, m ∉ before → ∀ m', Onto r ws edge.options m m' → m' ∈ after

/-- Whether a module with a local match is added. -/
def Gains (ws : Workspace) (o : Options) (name : String) (before after : List Path) : Prop :=
  ∃ m ∈ after, m ∉ before ∧ Hits ws o name m

variable {before between after : List Path} {o : Options} {name : String}

namespace Spreads

theorem refl (visited : List Path) : Spreads r ws edge avoided visited visited where
  grown := List.Subset.refl _
  reached _ mem new := absurd mem new
  closed _ mem new := absurd mem new

theorem trans (h : Spreads r ws edge avoided before between)
    (h' : Spreads r ws edge avoided between after) : Spreads r ws edge avoided before after where
  grown := List.Subset.trans h.grown h'.grown
  reached m mem new := by
    by_cases early : m ∈ between
    · exact h.reached m early new
    · exact h'.reached m mem early
  closed m mem new m' onto := by
    by_cases early : m ∈ between
    · exact h'.grown (h.closed m early new m' onto)
    · exact h'.closed m mem early m' onto

/-- A reached module is added if the modules that its wildcards lead to are added after it. -/
theorem entered {m : Path} (reached : Reached r ws edge avoided m)
    (onto : ∀ m', Onto r ws edge.options m m' → m' ∈ after)
    (h : Spreads r ws edge avoided (m :: before) after) :
    Spreads r ws edge avoided before after where
  grown := List.Subset.trans (List.subset_cons_self m before) h.grown
  reached m' mem new := by
    by_cases eq : m' = m
    · exact eq ▸ reached
    · exact h.reached m' mem (by simp [eq, new])
  closed m' mem new := by
    by_cases eq : m' = m
    · exact eq ▸ onto
    · exact h.closed m' mem (by simp [eq, new])

end Spreads

theorem not_gains_self (visited : List Path) : ¬ Gains ws o name visited visited :=
  fun ⟨_, mem, new, _⟩ => new mem

theorem gains_trans (sub : before ⊆ between) (sub' : between ⊆ after) :
    Gains ws o name before after ↔ Gains ws o name before between ∨ Gains ws o name between after := by
  constructor
  · rintro ⟨m, mem, new, hits⟩
    by_cases early : m ∈ between
    · exact .inl ⟨m, early, new, hits⟩
    · exact .inr ⟨m, mem, early, hits⟩
  · rintro (⟨m, mem, new, hits⟩ | ⟨m, mem, new, hits⟩)
    · exact ⟨m, sub' mem, new, hits⟩
    · exact ⟨m, mem, fun early => new (sub early), hits⟩

theorem gains_cons {m : Path} (fresh : m ∉ before) (sub : m :: before ⊆ after) :
    Gains ws o name before after ↔ Hits ws o name m ∨ Gains ws o name (m :: before) after := by
  rw [gains_trans (List.subset_cons_self m before) sub]
  have first : Gains ws o name before (m :: before) ↔ Hits ws o name m := by
    constructor
    · rintro ⟨m', mem, new, hits⟩
      rcases List.mem_cons.1 mem with rfl | old
      · exact hits
      · exact absurd old new
    · intro hits
      exact ⟨m, List.mem_cons_self, fresh, hits⟩
  rw [first]

end

end ExportTrail.Search
