import ExportTrail.Proofs.Search.Reach

/-!
# The search along wildcards

Where only wildcards pass a name on, a search goes exactly where the wildcards lead: it visits the
modules that are reached from its edge without passing through a visited one, and it finds a node if
and only if one of them has a local match (`resolve_iff_reached`). Modules may refer to one another in
cycles, and to one module in several ways.

The search is depth first with one set of visited modules for all branches. What carries the proof is
that the wildcards of all modules that a request adds to the set lead into the set when the request is
answered (`Spreads`): a module that is skipped because it was visited is searched in another branch.
A chain never gets too long, since its modules are different from one another and all of them are
reached: a request is only refused when there is nothing new to visit (`covers_refuse`).
-/

namespace ExportTrail.Search

variable (r : Resolver) (ws : Workspace)

/-- Whether a module can be searched for a name, and nothing but wildcards passes the name on. -/
structure Plain (o : Options) (name : String) (m : Path) : Prop where
  /-- The module can be loaded. -/
  loads : ∃ program, Reads ws o m program
  /-- The modules that its wildcards refer to can be located. -/
  locates : ∀ program s failure, Reads ws o m program → s ∈ Export.statements program →
    Export.form? s = some .wildcard → ¬ Misleads r ws s failure
  /-- No value specifier with a source exports the name. -/
  unsourced : ∀ program s inner, Reads ws o m program → s ∈ Export.statements program →
    Export.form? s = some .specifiers → (s.field? "source").isSome →
    (name, inner) ∉ Export.specifiers s
  /-- A default export has a declaration or a value. -/
  defaults : ∀ program s, Reads ws o m program → s ∈ Export.statements program →
    Export.form? s = some .default → (Export.defaultValue s).isSome

variable {r ws}

section

variable {edge : Cursor} {avoided : List Path} {o : Options} {name : String}

/-! ## Along the recursion -/

variable (r ws edge avoided) in
/-- Whether a statement can be followed in the search from an edge: to a module that is reached if it
is not to be avoided, and that is read with the same options as from the edge. -/
structure Followed (s : Cursor) : Prop where
  locates : ∀ failure, ¬ Misleads r ws s failure
  reached : ∀ m, Leads r ws s m → m ∉ avoided → Reached r ws edge avoided m
  options : ∀ m, Leads r ws s m → s.options.forFile m = edge.options.forFile m

theorem followed_edge (locates : ∀ failure, ¬ Misleads r ws edge failure) :
    Followed r ws edge avoided edge where
  locates := locates
  reached _ leads fresh := .target leads fresh
  options _ _ := rfl

/-- The wildcards of a reached module can be followed. -/
theorem followed_wildcard {s program : Cursor} {m : Path} {serial : Nat}
    (reached : Reached r ws edge avoided m) (plain : Plain r ws edge.options name m)
    (loaded : (ws.load serial m edge.options).outcome = .ok program)
    (mem : s ∈ Export.statements program) (form : Export.form? s = some .wildcard) :
    Followed r ws edge avoided s where
  locates failure := plain.locates program s failure ⟨serial, loaded⟩ mem form
  reached _ leads fresh := .step reached ⟨program, s, ⟨serial, loaded⟩, mem, form, leads⟩ fresh
  options _ leads := leads.forFile loaded mem

/-- A plain module can be loaded at any time. -/
theorem Plain.load {m : Path} (h : Plain r ws o name m) (serial : Nat) :
    ∃ program, (ws.load serial m o).outcome = .ok program := by
  obtain ⟨program, k, loaded⟩ := h.loads
  exact ⟨program.renumber serial, Workspace.load_renumber loaded⟩

variable (r ws edge avoided name) in
/-- Whether an item of an agenda settles a result, or asks for the name along a wildcard that can be
followed. -/
inductive Simple : Export.Item → Prop
  | settle (found : Cursor) : Simple (.settle (some found))
  | ask {s : Cursor} (followed : Followed r ws edge avoided s) : Simple (.ask s name false)

/-- Nothing else is on the agenda of a plain module that is reached. -/
theorem simple_of_mem_agenda {program : Cursor} {m : Path} {serial : Nat} {item : Export.Item}
    (reached : Reached r ws edge avoided m) (plain : Plain r ws edge.options name m)
    (loaded : (ws.load serial m edge.options).outcome = .ok program)
    (mem : item ∈ Export.agenda program name) : Simple r ws edge avoided name item := by
  have reads : Reads ws edge.options m program := ⟨serial, loaded⟩
  obtain ⟨s, hs, contributes⟩ := Export.mem_agenda_iff.1 mem
  cases contributes with
  | found hit => exact .settle _
  | void form asked nothing =>
    have valued := plain.defaults program s reads hs form
    simp [nothing] at valued
  | wildcard form => exact .ask (followed_wildcard reached plain loaded hs form)
  | specifier form sourced exports =>
    exact absurd exports (plain.unsourced program s _ reads hs form sourced)

variable (r ws edge avoided name) in
/-- Whether a search from one set of visited modules to another is a success, for a statement that
it follows and with what it finds. -/
structure Covered (s : Cursor) (found : Option Cursor) (before after : List Path) : Prop where
  spreads : Spreads r ws edge avoided before after
  target : ∀ m, Leads r ws s m → m ∈ after
  found_iff : found.isSome ↔ Gains ws edge.options name before after

namespace Recursive

variable (r ws edge avoided name) in
/-- Whether the requests of a chain of given length cover what they are made for, if the modules
that they enter are plain. -/
def Covers (depth : Nat) (ask : Ask) : Prop :=
  ∀ chain s p, chain.length + 1 = depth → Trail r ws edge avoided chain p.visited →
    Followed r ws edge avoided s →
    (∀ m ∈ (ask s name p).2.visited, Reached r ws edge avoided m →
      Plain r ws edge.options name m) →
    ∃ found p', ask s name p = (.ok found, p') ∧
      Covered r ws edge avoided name s found p.visited p'.visited

/-- A request is only refused when all reached modules are visited. -/
theorem covers_refuse {depth : Nat} (full : r.maxDepth ≤ depth)
    (enough : ({m | Reached r ws edge avoided m}.ncard : Int) ≤ r.maxDepth) :
    Covers r ws edge avoided name (depth + 1) (refuse r) := by
  intro chain s p length trail followed _
  refine ⟨none, _, rfl, .refl _, ?_, ?_⟩
  · intro m leads
    by_cases old : m ∈ avoided
    · exact trail.avoided old
    · exact trail.mem_of_full (by omega) (followed.reached m leads old)
  · simpa using not_gains_self p.visited

/-- The work on an agenda of wildcards and local matches. -/
theorem covers_forAll {depth : Nat} {ask : Ask} (grows : Grows ask)
    (covers : Covers r ws edge avoided name depth ask) {chain : List Path}
    (length : chain.length + 1 = depth) {items : List Export.Item}
    (simple : ∀ item ∈ items, Simple r ws edge avoided name item)
    {result : Option Cursor} {p : Progress} (trail : Trail r ws edge avoided chain p.visited)
    (plain : ∀ m ∈ (forAll (perform ask) items result p).2.visited, Reached r ws edge avoided m →
      Plain r ws edge.options name m) :
    ∃ found p', forAll (perform ask) items result p = (.ok found, p') ∧
      Spreads r ws edge avoided p.visited p'.visited ∧
      (∀ s, .ask s name false ∈ items → ∀ m, Leads r ws s m → m ∈ p'.visited) ∧
      (found.isSome ↔ result.isSome ∨ (∃ found, .settle (some found) ∈ items) ∨
        Gains ws edge.options name p.visited p'.visited) := by
  induction items generalizing result p with
  | nil => exact ⟨result, p, rfl, .refl _, by simp, by simp [not_gains_self]⟩
  | cons item items ih =>
    rw [List.forall_mem_cons] at simple
    obtain ⟨first, simple⟩ := simple
    cases first with
    | settle settled =>
      obtain ⟨found, p', eq, spreads, targets, found_iff⟩ := ih simple trail plain
      refine ⟨found, p', eq, spreads, ?_, ?_⟩
      · intro s mem
        exact targets s (by simpa using mem)
      · rw [found_iff]
        simp
    | @ask s followed =>
      rw [forAll, perform] at plain ⊢
      -- what the request adds is still there in the end
      have asked : ∀ m ∈ (ask s name p).2.visited, Reached r ws edge avoided m →
          Plain r ws edge.options name m := by
        intro m mem
        apply plain m
        generalize ask s name p = asking at mem ⊢
        rcases asking with ⟨e | answer, q⟩
        · exact mem
        · exact grows_forAll grows items _ q mem
      obtain ⟨answer, q, eq, covered⟩ := covers chain s p length trail followed asked
      rw [eq] at plain ⊢
      obtain ⟨found, p', eq', spreads, targets, found_iff⟩ :=
        ih simple (trail.mono covered.spreads.grown) plain
      refine ⟨found, p', eq', covered.spreads.trans spreads, ?_, ?_⟩
      · intro s' mem m leads
        rcases List.mem_cons.1 mem with same | mem
        · obtain ⟨rfl, -⟩ := Export.Item.ask.inj same
          exact spreads.grown (covered.target m leads)
        · exact targets s' mem m leads
      · have kept : (absorb false result answer).isSome ↔ answer.isSome ∨ result.isSome := by
          cases answer <;> simp [absorb]
        rw [found_iff, kept, covered.found_iff,
          gains_trans covered.spreads.grown spreads.grown]
        simp only [List.mem_cons, reduceCtorEq, false_or]
        tauto

/-- If the requests behind a module cover what they are made for, so does the one for the module. -/
theorem covers_visit {depth : Nat} {ask : Ask} (grows : Grows ask)
    (covers : Covers r ws edge avoided name (depth + 1) ask) :
    Covers r ws edge avoided name depth (visit r ws ask) := by
  intro chain s p length trail followed plain
  have visiting := visit_visiting r ws ask s name p
  generalize visit r ws ask s name p = answered at visiting plain ⊢
  have reached {m : Path} (leads : Leads r ws s m) (fresh : m ∉ p.visited) :
      Reached r ws edge avoided m :=
    followed.reached m leads fun old => fresh (trail.avoided old)
  cases visiting with
  | idle events nothing =>
    exact ⟨none, _, rfl, .refl _, nothing, by simpa using not_gains_self p.visited⟩
  | lost events misleads => exact absurd misleads (followed.locates _)
  | @broken m failure events leads fresh fails =>
    have plainly := plain m List.mem_cons_self (reached leads fresh)
    obtain ⟨program, loaded⟩ := plainly.load p.serial
    rw [← Workspace.load_congr (followed.options m leads), fails] at loaded
    cases loaded
  | @entered m program events leads fresh loaded =>
    rw [Workspace.load_congr (followed.options m leads)] at loaded
    generalize started :
      ((p.record events).mark m).attempt m (ws.load p.serial m s.options) = q at plain ⊢
    have visited : q.visited = m :: p.visited := by rw [← started]; rfl
    have here := reached leads fresh
    have mem : m ∈ (module ask program name q).2.visited :=
      grows_module grows program name q (visited ▸ List.mem_cons_self)
    have plainly := plain m mem here
    rw [module_eq] at plain ⊢
    have next : Trail r ws edge avoided (m :: chain) q.visited := by
      rw [visited]
      exact trail.cons here fresh
    obtain ⟨found, p', eq, spreads, targets, found_iff⟩ :=
      covers_forAll grows covers (by rw [List.length_cons, length])
        (fun _ => simple_of_mem_agenda here plainly loaded) next plain
    rw [visited] at spreads found_iff
    refine ⟨found, p', eq, .entered here ?_ spreads, ?_, ?_⟩
    · intro m' onto
      obtain ⟨s, mem, leads⟩ := (onto_iff name loaded).1 onto
      exact targets s mem m' leads
    · intro m' leads'
      rw [leads'.unique leads]
      exact spreads.grown List.mem_cons_self
    · rw [found_iff, gains_cons fresh spreads.grown, hits_iff loaded]
      simp

/-- Every request of a chain covers what it is made for, if the resolver allows for as many modules
as are reached. -/
theorem covers_request (enough : ({m | Reached r ws edge avoided m}.ncard : Int) ≤ r.maxDepth) :
    Covers r ws edge avoided name 1 (request r ws 1) := by
  have both : Grows (request r ws 1) ∧ Covers r ws edge avoided name 1 (request r ws 1) :=
    request_induction (P := fun depth ask => Grows ask ∧ Covers r ws edge avoided name depth ask)
      (fun depth full => ⟨grows_refuse, covers_refuse full enough⟩)
      (fun depth ask _ h => ⟨grows_visit h.1, covers_visit h.1 h.2⟩) 1 (by omega)
  exact both.2

end Recursive

end

namespace TwoModules

variable (m : Path)

theorem plain_first : Plain resolver workspace (options m) "x" first := by
  have only (program s : Cursor) (reads : Reads workspace (options m) first program)
      (mem : s ∈ Export.statements program) : ∃ serial, s = wildcard (firstProgram serial) := by
    obtain ⟨serial, loaded⟩ := reads
    obtain rfl := Except.ok.inj ((load_first serial m).symm.trans loaded)
    rw [statements_first] at mem
    exact ⟨serial, List.mem_singleton.1 mem⟩
  constructor
  · exact ⟨_, 0, load_first 0 m⟩
  · intro program s failure reads mem form
    obtain ⟨serial, rfl⟩ := only program s reads mem
    exact (leads_first serial).not_misleads
  · intro program s inner reads mem form
    obtain ⟨serial, rfl⟩ := only program s reads mem
    cases form
  · intro program s reads mem form
    obtain ⟨serial, rfl⟩ := only program s reads mem
    cases form

theorem plain_second : Plain resolver workspace (options m) "x" second := by
  have only (program s : Cursor) (reads : Reads workspace (options m) second program)
      (mem : s ∈ Export.statements program) :
      ∃ serial, s = wildcard (secondProgram serial) ∨ s = clause (secondProgram serial) := by
    obtain ⟨serial, loaded⟩ := reads
    obtain rfl := Except.ok.inj ((load_second serial m).symm.trans loaded)
    rw [statements_second] at mem
    exact ⟨serial, by simpa using mem⟩
  constructor
  · exact ⟨_, 0, load_second 0 m⟩
  · intro program s failure reads mem form
    obtain ⟨serial, rfl | rfl⟩ := only program s reads mem
    · exact (leads_second serial).not_misleads
    · cases form
  · intro program s inner reads mem form sourced
    obtain ⟨serial, rfl | rfl⟩ := only program s reads mem
    · cases form
    · cases sourced
  · intro program s reads mem form
    obtain ⟨serial, rfl | rfl⟩ := only program s reads mem
    · cases form
    · cases form

end TwoModules

/-- **The search along wildcards is reachability.** Suppose that the module of an edge can be located,
that the resolver allows for as many modules on a chain as are reached from the edge along wildcards
without passing through a visited module, and that those of them that are entered are plain: they can
be loaded, their wildcards can be located, no specifier with a source exports the name, and default
exports are not void. Then a search ends without a failure; it finds a node if and only if one of the
reached modules has a local match; and the modules visited in the end are those visited before and
the reached ones. -/
theorem resolve_iff_reached {edge : Cursor} {name : String} {p : Progress}
    (locates : ∀ failure, ¬ Misleads r ws edge failure)
    (plain : ∀ m ∈ (r.resolve ws edge name p).2.visited, Reached r ws edge p.visited m →
      Plain r ws edge.options name m)
    (enough : ({m | Reached r ws edge p.visited m}.ncard : Int) ≤ r.maxDepth) :
    ∃ found p', r.resolve ws edge name p = (.ok found, p') ∧
      (found.isSome ↔ ∃ m, Reached r ws edge p.visited m ∧ Hits ws edge.options name m) ∧
      ∀ m, m ∈ p'.visited ↔ m ∈ p.visited ∨ Reached r ws edge p.visited m := by
  rw [resolve_eq, Recursive.resolve] at plain ⊢
  obtain ⟨found, p', eq, covered⟩ :=
    Recursive.covers_request enough [] edge p rfl (.nil edge p.visited) (followed_edge locates) plain
  have all {m : Path} (reached : Reached r ws edge p.visited m) : m ∈ p'.visited := by
    induction reached with
    | target leads fresh => exact covered.target _ leads
    | step reached onto fresh ih => exact covered.spreads.closed _ ih reached.fresh _ onto
  refine ⟨found, p', eq, ?_, ?_⟩
  · rw [covered.found_iff]
    constructor
    · rintro ⟨m, mem, new, hits⟩
      exact ⟨m, covered.spreads.reached m mem new, hits⟩
    · rintro ⟨m, reached, hits⟩
      exact ⟨m, all reached, reached.fresh, hits⟩
  · intro m
    constructor
    · intro mem
      by_cases old : m ∈ p.visited
      · exact .inl old
      · exact .inr (covered.spreads.reached m mem old)
    · rintro (old | reached)
      · exact covered.spreads.grown old
      · exact all reached

open TwoModules in
/-- A search of two modules that refer to each other by wildcards. -/
theorem resolve_iff_reached_two_modules :
    ∃ found p', resolver.resolve workspace (wildcard (secondProgram 0)) "x" (.start [] 0) =
        (.ok found, p') ∧
      (found.isSome ↔ ∃ m, Reached resolver workspace (wildcard (secondProgram 0)) [] m ∧
        Hits workspace (wildcard (secondProgram 0)).options "x" m) ∧
      ∀ m, m ∈ p'.visited ↔
        m ∈ [] ∨ Reached resolver workspace (wildcard (secondProgram 0)) [] m := by
  have only (m : Path) (reached : Reached resolver workspace (wildcard (secondProgram 0)) [] m) :
      m = first ∨ m = second := by
    have mem : m ∈ [first, second] := reached.mem_locations
    simpa using mem
  apply resolve_iff_reached
  · intro failure
    exact (leads_second 0).not_misleads
  · intro m _ reached
    rcases only m reached with rfl | rfl
    · exact plain_first second
    · exact plain_second second
  · have sub : {m | Reached resolver workspace (wildcard (secondProgram 0)) [] m} ⊆
        {first, second} := only
    have le := Set.ncard_le_ncard sub (Set.toFinite _)
    rw [Set.ncard_pair (by decide)] at le
    show (_ : Int) ≤ 2
    exact_mod_cast le

end ExportTrail.Search
