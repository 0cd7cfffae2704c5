import ExportTrail.Path
import Mathlib.Data.List.Nodup

/-!
# Surveys

A survey is the tree of all that a search does when visited modules do not count: which results the
work on an agenda settles, which modules it enters, and for each of these the survey of its own
agenda. Two searches are read off a survey. One enters a module as often as it is asked for
(`Survey.found`), the other one only the first time (`Survey.pruned`).

* `found_of_pruned`: what the second search finds, the first one finds.
* `pruned_eq_found`: both find the same if no module is entered twice.
* `pruned_of_found`: they also find the same if a module is only entered twice where no answer of
  nothing can clear a result. The idea is that a module that is skipped was entered before for the
  same name, and whatever was found there is still the result, or part of what becomes the result
  (`Ready.known`).
-/

namespace ExportTrail.Search

/-- What a search does on an agenda, and on those of the modules it enters. -/
inductive Survey
  /-- Nothing is left to do. -/
  | done
  /-- A result is settled, be it a node or nothing. -/
  | settle (found : Bool) (rest : Survey)
  /-- A request leads to no module. -/
  | nowhere (clears : Bool) (rest : Survey)
  /-- A request leads to a module, and this is searched. -/
  | into (module : Path) (clears : Bool) (inner rest : Survey)
  deriving DecidableEq, Inhabited, Repr

namespace Survey

/-- Whether there is a result after an answer, given whether there was one before and whether the
answer is one. -/
def absorb (clears result answer : Bool) : Bool := if clears then answer else answer || result

/-- The modules that are entered, in order and as often as they are. -/
def modules : Survey → List Path
  | done => []
  | settle _ rest => rest.modules
  | nowhere _ rest => rest.modules
  | into m _ inner rest => m :: (inner.modules ++ rest.modules)

/-- How many modules are on the longest chain. -/
def height : Survey → Nat
  | done => 0
  | settle _ rest => rest.height
  | nowhere _ rest => rest.height
  | into _ _ inner rest => max (inner.height + 1) rest.height

/-- Whether a result can be lost on the agenda itself. -/
def clears : Survey → Bool
  | done => false
  | settle found rest => !found || rest.clears
  | nowhere clears rest => clears || rest.clears
  | into _ clears _ rest => clears || rest.clears

/-- Whether there is a result in the end, if modules are entered again. -/
def found : Survey → Bool → Bool
  | done, result => result
  | settle found rest, _ => rest.found found
  | nowhere clears rest, result => rest.found (absorb clears result false)
  | into _ clears inner rest, result => rest.found (absorb clears result (inner.found false))

/-- Whether there is a result in the end and which modules are visited then, if those that are
visited are not entered. -/
def pruned : Survey → List Path → Bool → Bool × List Path
  | done, visited, result => (result, visited)
  | settle found rest, visited, _ => rest.pruned visited found
  | nowhere clears rest, visited, result => rest.pruned visited (absorb clears result false)
  | into m clears inner rest, visited, result =>
    if m ∈ visited then rest.pruned visited (absorb clears result false)
    else
      let answer := inner.pruned (m :: visited) false
      rest.pruned answer.2 (absorb clears result answer.1)

/-- Whether something holds of each module that is entered, and of the survey of its agenda. -/
def Everywhere (P : Path → Survey → Prop) : Survey → Prop
  | done => True
  | settle _ rest => rest.Everywhere P
  | nowhere _ rest => rest.Everywhere P
  | into m _ inner rest => P m inner ∧ inner.Everywhere P ∧ rest.Everywhere P

section

variable {w inner rest : Survey} {visited : List Path} {m : Path} {c b b' result : Bool}

theorem clears_settle_eq_false {found : Bool} :
    (settle found rest).clears = false ↔ found = true ∧ rest.clears = false := by
  simp [clears]

theorem clears_nowhere_eq_false :
    (nowhere c rest).clears = false ↔ c = false ∧ rest.clears = false := by
  simp [clears]

theorem clears_into_eq_false :
    (into m c inner rest).clears = false ↔ c = false ∧ rest.clears = false := by
  simp [clears]

theorem pruned_old (old : m ∈ visited) :
    (into m c inner rest).pruned visited result = rest.pruned visited (absorb c result false) := by
  rw [pruned, if_pos old]

theorem pruned_new (new : m ∉ visited) :
    (into m c inner rest).pruned visited result =
      rest.pruned (inner.pruned (m :: visited) false).2
        (absorb c result (inner.pruned (m :: visited) false).1) := by
  rw [pruned, if_neg new]

theorem absorb_mono (results : b = true → b' = true) {answer answer' : Bool}
    (answers : answer = true → answer' = true) (h : absorb c b answer = true) :
    absorb c b' answer' = true := by
  cases c <;> simp only [absorb, if_true, Bool.false_eq_true, if_false, Bool.or_eq_true] at h ⊢
  · exact h.imp answers results
  · exact answers h

/-- Where answers of nothing do not matter, a result is kept. -/
theorem pruned_keeps (plain : w.clears = false) (kept : result = true) :
    (w.pruned visited result).1 = true := by
  induction w generalizing visited result with
  | done => exact kept
  | settle found rest ih =>
    obtain ⟨useful, plain⟩ := clears_settle_eq_false.1 plain
    exact ih plain useful
  | nowhere c rest ih =>
    obtain ⟨rfl, plain⟩ := clears_nowhere_eq_false.1 plain
    exact ih plain (by simp [absorb, kept])
  | into m c inner rest _ ih =>
    obtain ⟨rfl, plain⟩ := clears_into_eq_false.1 plain
    by_cases old : m ∈ visited
    · rw [pruned_old old]
      exact ih plain (by simp [absorb, kept])
    · rw [pruned_new old]
      exact ih plain (by simp [absorb, kept])

/-- Only the modules of a survey are visited. -/
theorem pruned_subset : (w.pruned visited result).2 ⊆ visited ++ w.modules := by
  induction w generalizing visited result with
  | done => exact List.subset_append_left ..
  | settle found rest ih => exact ih
  | nowhere c rest ih => exact ih
  | into m c inner rest ihInner ih =>
    intro m' mem
    by_cases old : m ∈ visited
    · rw [pruned_old old] at mem
      have := ih mem
      simp only [modules, List.mem_append, List.mem_cons] at this ⊢
      tauto
    · rw [pruned_new old] at mem
      have := ih mem
      rw [List.mem_append] at this
      rcases this with early | late
      · have := ihInner early
        simp only [modules, List.mem_append, List.mem_cons] at this ⊢
        tauto
      · simp only [modules, List.mem_append, List.mem_cons]
        tauto

/-- What is found without entering modules again is found. -/
theorem found_of_pruned (start : result = true → b = true)
    (h : (w.pruned visited result).1 = true) : w.found b = true := by
  induction w generalizing visited result b with
  | done => exact start h
  | settle found rest ih => exact ih (fun eq => eq) h
  | nowhere c rest ih => exact ih (absorb_mono start fun eq => eq) h
  | into m c inner rest ihInner ih =>
    by_cases old : m ∈ visited
    · rw [pruned_old old] at h
      exact ih (absorb_mono start (by simp)) h
    · rw [pruned_new old] at h
      exact ih (absorb_mono start (ihInner (by simp))) h

/-- If no module is entered twice, and none that is visited, the same is found. -/
theorem pruned_eq_found (nodup : w.modules.Nodup) (new : ∀ m ∈ w.modules, m ∉ visited) :
    (w.pruned visited result).1 = w.found result := by
  induction w generalizing visited result with
  | done => rfl
  | settle found rest ih => exact ih nodup new
  | nowhere c rest ih => exact ih nodup new
  | into m c inner rest ihInner ih =>
    rw [modules, List.nodup_cons, List.nodup_append, List.mem_append, not_or] at nodup
    obtain ⟨⟨apart, _⟩, nodupInner, nodupRest, disjoint⟩ := nodup
    simp only [modules, List.forall_mem_cons, List.forall_mem_append] at new
    obtain ⟨newHere, newInner, newRest⟩ := new
    have answer : (inner.pruned (m :: visited) false).1 = inner.found false := by
      refine ihInner nodupInner fun m' mem => ?_
      rw [List.mem_cons, not_or]
      exact ⟨fun eq => apart (eq ▸ mem), newInner m' mem⟩
    rw [pruned_new newHere, answer, found]
    refine ih nodupRest fun m' mem entered => ?_
    have := pruned_subset entered
    simp only [List.cons_append, List.mem_cons, List.mem_append] at this
    rcases this with rfl | old | early
    · contradiction
    · exact newRest m' mem old
    · exact disjoint m' early m' mem rfl

/-- A chain that is as long as any: if no module is entered on behalf of itself, its modules are
different from one another. -/
theorem exists_chain (apart : w.Everywhere fun m inner => m ∉ inner.modules) :
    ∃ chain : List Path, chain.Nodup ∧ chain ⊆ w.modules ∧ chain.length = w.height := by
  induction w with
  | done => exact ⟨[], List.nodup_nil, List.nil_subset _, rfl⟩
  | settle found rest ih => exact ih apart
  | nowhere c rest ih => exact ih apart
  | into m c inner rest ihInner ih =>
    obtain ⟨here, apartInner, apartRest⟩ := apart
    obtain ⟨chain, nodup, sub, length⟩ := ihInner apartInner
    obtain ⟨chain', nodup', sub', length'⟩ := ih apartRest
    rcases Nat.le_total (inner.height + 1) rest.height with less | more
    · refine ⟨chain', nodup', fun m' mem => ?_, ?_⟩
      · exact List.mem_cons_of_mem _ (List.mem_append_right _ (sub' mem))
      · rw [height, length', Nat.max_eq_right less]
    · refine ⟨m :: chain, List.nodup_cons.2 ⟨fun mem => here (sub mem), nodup⟩, ?_, ?_⟩
      · exact List.cons_subset_cons m (List.Subset.trans sub (List.subset_append_left ..))
      · rw [height, List.length_cons, length, Nat.max_eq_left more]

end

/-! ## Modules that are entered twice -/

/-- Whether a module is entered once in all, for each module that is entered on behalf of an agenda
on which results can be lost. -/
def Spared (all : List Path) (inner : Survey) : Prop :=
  inner.clears = true → ∀ m ∈ inner.modules, all.count m ≤ 1

/-- Whether each module has the same survey wherever it is entered on behalf of agendas on which no
result can be lost. -/
def Uniform (survey : Path → Survey) : Survey → Prop
  | done => True
  | settle _ rest => rest.Uniform survey
  | nowhere _ rest => rest.Uniform survey
  | into m _ inner rest =>
    inner = survey m ∧ (inner.clears = false → inner.Uniform survey) ∧ rest.Uniform survey

section

variable {survey : Path → Survey} {all before visited : List Path} {w inner rest : Survey}
  {m : Path} {c b result : Bool} {elsewhere : Prop}

variable (survey all before visited w elsewhere) in
/-- Whether a search that has entered some modules may prune what is left of it: `elsewhere` says
that something has been found that is not lost any more. -/
structure Ready : Prop where
  plain : w.clears = false
  apart : w.Everywhere fun m inner => m ∉ inner.modules
  spared : w.Everywhere fun _ => Spared all
  uniform : w.Uniform survey
  counted : ∀ m, (before ++ w.modules).count m ≤ all.count m
  entered : visited ⊆ before
  /-- A visited module that comes again has been of use already if it is of any. -/
  known : ∀ m ∈ visited, m ∈ w.modules → (survey m).found false = true → elsewhere

variable (survey all visited b elsewhere) in
/-- Whether pruning a search has not lost what it finds. -/
structure Kept (pruned : Bool × List Path) : Prop where
  found : b = true → pruned.1 = true ∨ elsewhere
  /-- A module that is visited now and can come again has been of use if it is of any. -/
  known : ∀ m ∈ pruned.2, m ∉ visited → 2 ≤ all.count m → (survey m).found false = true →
    pruned.1 = true ∨ elsewhere

namespace Ready

theorem settle {found : Bool}
    (h : Ready survey all before visited (.settle found rest) elsewhere) :
    found = true ∧ Ready survey all before visited rest elsewhere := by
  obtain ⟨useful, plain⟩ := clears_settle_eq_false.1 h.plain
  exact ⟨useful, plain, h.apart, h.spared, h.uniform, h.counted, h.entered, h.known⟩

theorem nowhere (h : Ready survey all before visited (.nowhere c rest) elsewhere) :
    c = false ∧ Ready survey all before visited rest elsewhere := by
  obtain ⟨safe, plain⟩ := clears_nowhere_eq_false.1 h.plain
  exact ⟨safe, plain, h.apart, h.spared, h.uniform, h.counted, h.entered, h.known⟩

/-- After the module has been entered, there is still not more to come. -/
theorem counted_later (h : Ready survey all before visited (.into m c inner rest) elsewhere)
    (m' : Path) : (before ++ m :: inner.modules ++ rest.modules).count m' ≤ all.count m' := by
  have counted := h.counted m'
  rwa [modules, ← List.cons_append, ← List.append_assoc] at counted

/-- The module has been entered before. -/
theorem skip (h : Ready survey all before visited (.into m c inner rest) elsewhere)
    (old : m ∈ visited) :
    (inner.found false = true → elsewhere) ∧
      Ready survey all (before ++ m :: inner.modules) visited rest elsewhere := by
  obtain ⟨same, -, uniform⟩ := h.uniform
  constructor
  · rw [same]
    exact h.known m old List.mem_cons_self
  · obtain ⟨-, plain⟩ := clears_into_eq_false.1 h.plain
    have entered : visited ⊆ before ++ m :: inner.modules :=
      List.Subset.trans h.entered (List.subset_append_left ..)
    refine ⟨plain, h.apart.2.2, h.spared.2.2, uniform, h.counted_later, entered, ?_⟩
    intro m' mem later
    exact h.known m' mem (List.mem_cons_of_mem _ (List.mem_append_right _ later))

/-- The module is entered, and no result can be lost on its agenda. -/
theorem enter (h : Ready survey all before visited (.into m c inner rest) elsewhere)
    (plain : inner.clears = false) :
    Ready survey all (before ++ [m]) (m :: visited) inner elsewhere where
  plain := plain
  apart := h.apart.2.1
  spared := h.spared.2.1
  uniform := h.uniform.2.1 plain
  counted m' := by
    have sub : (before ++ [m] ++ inner.modules).Sublist
        (before ++ (Survey.into m c inner rest).modules) := by
      rw [modules, List.append_assoc, List.singleton_append]
      exact ((List.sublist_append_left ..).cons_cons m).append_left before
    exact Nat.le_trans (sub.count_le m') (h.counted m')
  entered := by
    intro m' mem
    rcases List.mem_cons.1 mem with rfl | old
    · exact List.mem_append_right _ List.mem_cons_self
    · exact List.mem_append_left _ (h.entered old)
  known := by
    intro m' mem later useful
    rcases List.mem_cons.1 mem with rfl | old
    · exact absurd later h.apart.1
    · exact h.known m' old (List.mem_cons_of_mem _ (List.mem_append_left _ later)) useful

/-- The module is entered, and results can be lost on its agenda: it enters nothing twice. -/
theorem fresh (h : Ready survey all before visited (.into m c inner rest) elsewhere)
    (clears : inner.clears = true) :
    inner.modules.Nodup ∧ ∀ m' ∈ inner.modules, m' ∉ m :: visited := by
  have once (m' : Path) (mem : m' ∈ inner.modules) :
      before.count m' + inner.modules.count m' ≤ 1 := by
    have few := Nat.le_trans (h.counted m') (h.spared.1 clears m' mem)
    rw [modules, List.count_append, List.count_cons, List.count_append] at few
    omega
  constructor
  · rw [List.nodup_iff_count_le_one]
    intro m'
    by_cases mem : m' ∈ inner.modules
    · have := once m' mem
      omega
    · rw [List.count_eq_zero_of_not_mem mem]
      omega
  · intro m' mem old
    rcases List.mem_cons.1 old with rfl | old
    · exact h.apart.1 mem
    · have := once m' mem
      have := List.count_pos_iff.2 mem
      have := List.count_pos_iff.2 (h.entered old)
      omega

/-- So nothing is lost in the module. -/
theorem kept_fresh (h : Ready survey all before visited (.into m c inner rest) elsewhere)
    (clears : inner.clears = true) :
    Kept survey all (m :: visited) (inner.found false) elsewhere
      (inner.pruned (m :: visited) false) := by
  obtain ⟨nodup, new⟩ := h.fresh clears
  refine ⟨fun useful => .inl ((pruned_eq_found nodup new).trans useful), ?_⟩
  intro m' mem new' twice
  have origin := (List.mem_append.1 (pruned_subset mem)).resolve_left new'
  have once := h.spared.1 clears m' origin
  omega

/-- The module has been entered and searched, and nothing was lost. -/
theorem next (h : Ready survey all before visited (.into m c inner rest) elsewhere)
    (kept : Kept survey all (m :: visited) (inner.found false) elsewhere
      (inner.pruned (m :: visited) false)) :
    Ready survey all (before ++ m :: inner.modules) (inner.pruned (m :: visited) false).2 rest
      ((inner.pruned (m :: visited) false).1 = true ∨ elsewhere) := by
  have within : (inner.pruned (m :: visited) false).2 ⊆ before ++ m :: inner.modules := by
    intro m' mem
    have origin := pruned_subset mem
    rw [List.cons_append, List.mem_cons, List.mem_append] at origin
    rw [List.mem_append, List.mem_cons]
    rcases origin with same | old | inside
    · exact .inr (.inl same)
    · exact .inl (h.entered old)
    · exact .inr (.inr inside)
  obtain ⟨-, plain⟩ := clears_into_eq_false.1 h.plain
  obtain ⟨same, -, uniform⟩ := h.uniform
  refine ⟨plain, h.apart.2.2, h.spared.2.2, uniform, h.counted_later, within, ?_⟩
  intro m' mem later useful
  by_cases here : m' = m
  · rw [here, ← same] at useful
    exact kept.found useful
  · by_cases old : m' ∈ visited
    · exact .inr (h.known m' old (List.mem_cons_of_mem _ (List.mem_append_right _ later)) useful)
    · -- it is entered once in the module and once later
      refine kept.known m' mem (by simp [here, old]) ?_ useful
      have first := List.count_pos_iff.2 (within mem)
      have second := List.count_pos_iff.2 later
      have := h.counted_later m'
      rw [List.count_append] at this
      omega

/-- **Pruning loses nothing** when a search is ready for it. -/
theorem kept (h : Ready survey all before visited w elsewhere)
    (start : b = true → result = true ∨ elsewhere) :
    Kept survey all visited (w.found b) elsewhere (w.pruned visited result) := by
  induction w generalizing before visited b result elsewhere with
  | done => exact ⟨start, fun m mem new => absurd mem new⟩
  | settle found rest ih =>
    obtain ⟨rfl, later⟩ := h.settle
    exact ih later .inl
  | nowhere c rest ih =>
    obtain ⟨rfl, later⟩ := h.nowhere
    exact ih later (by simpa [absorb] using start)
  | into m c inner rest ihInner ih =>
    obtain ⟨rfl, plain⟩ := clears_into_eq_false.1 h.plain
    by_cases old : m ∈ visited
    · obtain ⟨useful, later⟩ := h.skip old
      rw [pruned_old old, found]
      refine ih later fun taken => ?_
      simp only [absorb, Bool.false_eq_true, if_false, Bool.or_eq_true, Bool.false_or] at taken ⊢
      exact taken.elim (fun here => .inr (useful here)) start
    · have inside : Kept survey all (m :: visited) (inner.found false) elsewhere
          (inner.pruned (m :: visited) false) := by
        cases clears : inner.clears with
        | false => exact ihInner (h.enter clears) (by simp)
        | true => exact h.kept_fresh clears
      have later := h.next inside
      rw [pruned_new old, found]
      generalize inner.pruned (m :: visited) false = answer at inside later ⊢
      have next : absorb false b (inner.found false) = true →
          absorb false result answer.1 = true ∨ answer.1 = true ∨ elsewhere := by
        simp only [absorb, Bool.false_eq_true, if_false, Bool.or_eq_true]
        rintro (here | earlier)
        · exact .inr (inside.found here)
        · exact (start earlier).imp .inr .inr
      have outside := ih later next
      -- what the module has answered stays
      have stays (out : (rest.pruned answer.2 (absorb false result answer.1)).1 = true ∨
          answer.1 = true ∨ elsewhere) :
          (rest.pruned answer.2 (absorb false result answer.1)).1 = true ∨ elsewhere := by
        rcases out with out | answered | there
        · exact .inl out
        · exact .inl (pruned_keeps plain (by simp [absorb, answered]))
        · exact .inr there
      refine ⟨fun taken => stays (outside.found taken), fun m' mem new twice useful => ?_⟩
      by_cases early : m' ∈ answer.2
      · by_cases here : m' = m
        · rw [here, ← h.uniform.1] at useful
          exact stays (.inr (inside.found useful))
        · exact stays (.inr (inside.known m' early (by simp [here, new]) twice useful))
      · exact stays (outside.known m' mem early twice useful)

end Ready

/-- A search for which no module is visited loses nothing, if results cannot be lost on its own
agenda, and no module is entered twice where they can be lost. -/
theorem pruned_of_found (plain : w.clears = false)
    (apart : w.Everywhere fun m inner => m ∉ inner.modules)
    (spared : w.Everywhere fun _ => Spared w.modules) (uniform : w.Uniform survey)
    (h : w.found false = true) : (w.pruned [] false).1 = true := by
  have ready : Ready survey w.modules [] [] w False :=
    ⟨plain, apart, spared, uniform, fun m => Nat.le_refl _, List.Subset.refl _, by simp⟩
  exact ((ready.kept (by simp)).found h).resolve_right id

end

end Survey

end ExportTrail.Search
