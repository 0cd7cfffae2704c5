import ExportTrail.Session

/-!
# Books of the visited modules

A search records what it does to enter modules as a list of acts. `Books` says what these acts have
to do with the modules visited before and after: modules are only added, each is added before it is
loaded, and what was added is what was loaded, each module once. `Ending` says how the outcome
depends on the loads: a load that fails is the last act, and its failure is the outcome.

Both hold of every request (`query_books`), because a turn of the machine keeps them
(`step_more_books`, `step_done_books`) and so does a run (`run_books`).
-/

namespace ExportTrail.Search

/-- The modules that acts add to the visited ones, in order. -/
def marks (acts : List Act) : List Path := acts.filterMap Act.marked?

/-- The modules whose loading is started by acts, in order. -/
def loads (acts : List Act) : List Path := acts.filterMap Act.loaded?

@[simp] theorem marks_append (acts acts' : List Act) :
    marks (acts ++ acts') = marks acts ++ marks acts' := List.filterMap_append

@[simp] theorem loads_append (acts acts' : List Act) :
    loads (acts ++ acts') = loads acts ++ loads acts' := List.filterMap_append

/-- What acts have to do with the modules visited before and after them. -/
structure Books (ws : Workspace) (before after : List Path) (acts : List Act) : Prop where
  /-- Modules are only added. -/
  grown : after = (marks acts).reverse ++ before
  /-- The modules visited after the acts are those visited before and those loaded. -/
  settled : ∀ m, m ∈ after ↔ m ∈ before ∨ m ∈ loads acts
  /-- No module is loaded twice. -/
  once : (loads acts).Nodup
  /-- No module is loaded that was visited before. -/
  fresh : ∀ m ∈ loads acts, m ∉ before
  /-- A module is added before it is loaded. -/
  marked : ∀ earlier m outcome later, acts = earlier ++ .load m outcome :: later → m ∈ marks earlier
  /-- A load has the outcome that loading the module has. -/
  genuine : ∀ m outcome, .load m outcome ∈ acts →
    ∃ serial o, (ws.load serial m o).outcome = outcome

namespace Books

variable {ws : Workspace} {before between after : List Path} {acts acts' : List Act}

theorem refl (visited : List Path) : Books ws visited visited [] where
  grown := rfl
  settled := by simp [loads]
  once := List.nodup_nil
  fresh := by simp [loads]
  marked := by simp
  genuine := by simp

theorem trans (h : Books ws before between acts) (h' : Books ws between after acts') :
    Books ws before after (acts ++ acts') where
  grown := by rw [h'.grown, h.grown, marks_append, List.reverse_append, List.append_assoc]
  settled m := by rw [h'.settled, h.settled, loads_append, List.mem_append, or_assoc]
  once := by
    rw [loads_append, List.nodup_append]
    refine ⟨h.once, h'.once, fun m hm m' hm' eq => ?_⟩
    exact h'.fresh m' hm' ((h.settled m').2 (.inr (eq ▸ hm)))
  fresh m hm hbefore := by
    rw [loads_append, List.mem_append] at hm
    rcases hm with hm | hm
    · exact h.fresh m hm hbefore
    · exact h'.fresh m hm ((h.settled m).2 (.inl hbefore))
  marked earlier m outcome later split := by
    rcases List.append_eq_append_iff.1 split with ⟨rest, rfl, hrest⟩ | ⟨rest, hacts, hrest⟩
    · rw [marks_append]
      exact List.mem_append_right _ (h'.marked rest m outcome later hrest)
    · cases rest with
      | nil =>
        -- the load is the first act of the second stretch, where nothing is added before it
        have first := h'.marked [] m outcome later hrest.symm
        cases first
      | cons act rest =>
        obtain ⟨rfl, rfl⟩ := List.cons.inj hrest
        exact h.marked earlier m outcome rest hacts
  genuine m outcome mem := by
    rcases List.mem_append.1 mem with mem | mem
    · exact h.genuine m outcome mem
    · exact h'.genuine m outcome mem

/-- Entering a new module. -/
theorem entered {m : Path} {visited : List Path} {outcome : Except Failure Cursor}
    (fresh : m ∉ visited) (genuine : ∃ serial o, (ws.load serial m o).outcome = outcome) :
    Books ws visited (m :: visited) [.mark m, .load m outcome] where
  grown := rfl
  settled m' := by simp [loads, Act.loaded?, or_comm, eq_comm]
  once := by simp [loads, List.filterMap, Act.loaded?]
  fresh m' hm := by
    obtain rfl : m = m' := by simpa [loads, Act.loaded?] using hm
    exact fresh
  marked earlier m' outcome' later split := by
    rcases earlier with _ | ⟨act, _ | ⟨act', earlier⟩⟩
    · simp at split
    · obtain ⟨rfl, rest⟩ := List.cons.inj split
      obtain ⟨load, -⟩ := List.cons.inj rest
      obtain ⟨rfl, -⟩ := Act.load.inj load
      simp [marks, Act.marked?]
    · simp at split
  genuine m' outcome' mem := by
    obtain ⟨rfl, rfl⟩ : m' = m ∧ outcome' = outcome := by simpa using mem
    exact genuine

theorem subset (h : Books ws before after acts) : before ⊆ after :=
  fun m hm => (h.settled m).2 (.inl hm)

end Books

/-- Whether no load fails. -/
def Clean (acts : List Act) : Prop := ∀ m e, .load m (.error e) ∉ acts

theorem clean_nil : Clean [] := by simp [Clean]

theorem Clean.append {acts acts' : List Act} (h : Clean acts) (h' : Clean acts') :
    Clean (acts ++ acts') := fun m e mem =>
  (List.mem_append.1 mem).elim (h m e) (h' m e)

/-- How an outcome depends on the loads that came before it. -/
inductive Ending : Outcome → List Act → Prop
  /-- All loads succeed. -/
  | clean {outcome : Outcome} {acts : List Act} (h : Clean acts) : Ending outcome acts
  /-- The last load fails, it is the last act, and its failure is the outcome. -/
  | broken {earlier : List Act} {m : Path} {e : Failure} (h : Clean earlier) :
    Ending (.error e) (earlier ++ [.load m (.error e)])

theorem Ending.after {outcome : Outcome} {acts acts' : List Act} (h : Clean acts)
    (h' : Ending outcome acts') : Ending outcome (acts ++ acts') := by
  cases h' with
  | clean h' => exact .clean (h.append h')
  | broken h' =>
    rw [← List.append_assoc]
    exact .broken (h.append h')

/-- Whether a search gets from one state to another by the given acts. -/
structure Keeps (ws : Workspace) (p p' : Progress) (acts : List Act) : Prop where
  recorded : p'.acts = p.acts ++ acts
  books : Books ws p.visited p'.visited acts

namespace Keeps

variable {ws : Workspace} {p p' p'' : Progress} {acts acts' : List Act}

theorem record (p : Progress) (events : List Log.Event) : Keeps ws p (p.record events) [] :=
  ⟨by simp, .refl _⟩

theorem refl (p : Progress) : Keeps ws p p [] := ⟨by simp, .refl _⟩

theorem trans (h : Keeps ws p p' acts) (h' : Keeps ws p' p'' acts') :
    Keeps ws p p'' (acts ++ acts') :=
  ⟨by rw [h'.recorded, h.recorded, List.append_assoc], h.books.trans h'.books⟩

end Keeps

variable (r : Resolver) (ws : Workspace)

/-! ## A turn -/

theorem enter_books (edge : Cursor) (p : Progress) :
    ∃ acts, Keeps ws p (enter r ws edge p).2 acts ∧ Ending (enter r ws edge p).1 acts := by
  have entry : Entry r ws edge p (enter r ws edge p) := enter_entry edge p
  generalize enter r ws edge p = entering at entry
  cases entry with
  | idle events => exact ⟨[], .record p events, .clean clean_nil⟩
  | lost events => exact ⟨[], .record p events, .clean clean_nil⟩
  | @entered m events leads fresh =>
    refine ⟨[.mark m, .load m (ws.load p.serial m edge.options).outcome],
      ⟨by simp, .entered fresh ⟨_, _, rfl⟩⟩, ?_⟩
    cases (ws.load p.serial m edge.options).outcome with
    | error e =>
      have marking : Clean [.mark m] := by simp [Clean]
      exact .broken marking
    | ok program => exact .clean (by simp [Clean])

/-- The failure that a turn ends with. -/
def Turn.failure? : Turn → Option Failure
  | .failed e => some e
  | _ => none

theorem failure?_proceed (program : Cursor) (items : List Export.Item) (result : Option Cursor) :
    (proceed program items result).failure? = none := by
  fun_induction proceed program items result with
  | case1 => rfl
  | case2 _ _ _ ih => exact ih
  | case3 => rfl

/-- The acts of a turn. They are clean unless the turn fails. -/
theorem resume_books (frame : Frame) (answer : Option Cursor) (p : Progress) :
    ∃ acts, Keeps ws p (resume r ws frame answer p).2 acts ∧
      ((resume r ws frame answer p).1.failure? = none ∧ Clean acts ∨
        ∃ e, (resume r ws frame answer p).1 = .failed e ∧ Ending (.error e) acts) := by
  cases frame with
  | request edge name =>
    obtain ⟨acts, keeps, ending⟩ := enter_books r ws edge p
    refine ⟨acts, ?_⟩
    rw [resume]
    generalize enter r ws edge p = entering at keeps ending ⊢
    rcases entering with ⟨e | _ | program, q⟩
    · exact ⟨keeps, .inr ⟨e, rfl, ending⟩⟩
    · cases ending with
      | clean h => exact ⟨keeps, .inl ⟨rfl, h⟩⟩
    · cases ending with
      | clean h => exact ⟨keeps, .inl ⟨failure?_proceed .., h⟩⟩
  | module program name => exact ⟨[], .refl p, .inl ⟨failure?_proceed .., clean_nil⟩⟩
  | waiting program clears rest result =>
    exact ⟨[], .refl p, .inl ⟨failure?_proceed .., clean_nil⟩⟩

/-- A turn that is not the last keeps the books, and no load fails in it. -/
theorem step_more_books {c c' : Config} (h : step r ws c = .more c') :
    ∃ acts, Keeps ws c.progress c'.progress acts ∧ Clean acts := by
  obtain ⟨_ | ⟨frame, below⟩, answer, p⟩ := c
  · cases h
  · obtain ⟨acts, keeps, clean⟩ := resume_books r ws frame answer p
    rw [step] at h
    dsimp only at h
    generalize resume r ws frame answer p = turning at h keeps clean
    rcases turning with ⟨e | result | ⟨edge, name, waiting⟩, q⟩
    · cases h
    · cases h
      rcases clean with ⟨-, clean⟩ | ⟨e, failed, -⟩
      · exact ⟨acts, keeps, clean⟩
      · cases failed
    · rcases clean with ⟨-, clean⟩ | ⟨e, failed, -⟩
      · rw [advance] at h
        split at h
        · cases h
          exact ⟨acts ++ [], keeps.trans (.record q _), by simpa using clean⟩
        · cases h
          exact ⟨acts, keeps, clean⟩
      · cases failed

/-- The last turn keeps the books. -/
theorem step_done_books {c : Config} {outcome : Outcome} {p : Progress}
    (h : step r ws c = .done outcome p) :
    ∃ acts, Keeps ws c.progress p acts ∧ Ending outcome acts := by
  obtain ⟨_ | ⟨frame, below⟩, answer, q⟩ := c
  · cases h
    exact ⟨[], .refl q, .clean clean_nil⟩
  · obtain ⟨acts, keeps, clean⟩ := resume_books r ws frame answer q
    rw [step] at h
    dsimp only at h
    generalize resume r ws frame answer q = turning at h keeps clean
    rcases turning with ⟨e | result | ⟨edge, name, waiting⟩, q'⟩
    · cases h
      rcases clean with ⟨none, -⟩ | ⟨e', failed, ending⟩
      · cases none
      · cases failed
        exact ⟨acts, keeps, ending⟩
    · cases h
    · rw [advance] at h
      split at h <;> cases h

/-! ## A run -/

theorem run_books (c : Config) :
    ∃ acts, Keeps ws c.progress (run r ws c).2 acts ∧ Ending (run r ws c).1 acts := by
  induction c using run.induct r ws with
  | case1 c outcome p last =>
    rw [run]
    split
    · next h =>
      cases last.symm.trans h
      exact step_done_books r ws last
    · next h => cases last.symm.trans h
  | case2 c c' turn ih =>
    obtain ⟨acts, keeps, clean⟩ := step_more_books r ws turn
    obtain ⟨acts', keeps', ending⟩ := ih
    rw [run]
    split
    · next h => cases turn.symm.trans h
    · next h =>
      cases turn.symm.trans h
      exact ⟨acts ++ acts', keeps.trans keeps', ending.after clean⟩

/-- Every request keeps the books, and an unbound local name is not searched for. -/
theorem query_books (q : Session.Query) (p : Progress) :
    ∃ acts, Keeps ws p (q.run r ws p).2 acts ∧ Ending (q.run r ws p).1 acts := by
  cases q with
  | resolve edge name => exact run_books r ws ⟨[.request edge name], none, p⟩
  | find program name => exact run_books r ws ⟨[.module program name], none, p⟩
  | binding statement localName =>
    rw [Session.Query.run, Resolver.resolveBinding]
    split
    · exact ⟨[], .refl p, .clean clean_nil⟩
    · next name bound => exact run_books r ws ⟨[.request statement name], none, p⟩

end ExportTrail.Search
