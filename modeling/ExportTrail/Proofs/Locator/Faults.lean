import ExportTrail.Proofs.Locator.Stems

/-!
# What makes locating fail

That there is no module for a specifier is an answer and no failure. What does make a locator fail
is listed by `Obstacle`: a path that is too long to be looked up, a path to which no extension can
be appended, and a manifest that is nested too deeply. Where the root has a canonical path and there
is no obstacle below it, every specifier has an answer (`locateFor_error`).
-/

namespace ExportTrail

namespace World

variable {w : World} {cwd : Location} {p : Path} {fault : FileFault}

/-- Whether a path is too long, or a name that may be met on its way. -/
inductive Overlong (w : World) (p : Path) : Prop
  | path (long : maxPathBytes ≤ p.toString.utf8ByteSize)
  | name {part : String} (mem : part ∈ p.parts) (long : maxNameBytes < part.utf8ByteSize)
  | target {l : Location} {target part : String} (link : w.lookup l = some (.link target))
    (mem : part ∈ Text.pieces '/' target) (long : maxNameBytes < part.utf8ByteSize)

theorem walk_nameTooLong {links : Nat} {here : Location} {todo : List String}
    (h : w.walk links here todo = .error .nameTooLong) :
    (∃ part ∈ todo, maxNameBytes < part.utf8ByteSize) ∨
      ∃ l target, w.lookup l = some (.link target) ∧
        ∃ part ∈ Text.pieces '/' target, maxNameBytes < part.utf8ByteSize := by
  -- what is long among the parts that are left is long among all of them
  have later {part : String} {rest : List String} {Q : Prop}
      (h : (∃ part ∈ rest, maxNameBytes < part.utf8ByteSize) ∨ Q) :
      (∃ part' ∈ part :: rest, maxNameBytes < part'.utf8ByteSize) ∨ Q := by
    rcases h with ⟨part', mem, long⟩ | other
    · exact .inl ⟨part', List.mem_cons_of_mem _ mem, long⟩
    · exact .inr other
  fun_induction walk w links here todo with
  | case1 | case5 | case7 | case8 | case9 => cases h
  | case2 _ _ _ _ _ ih | case3 _ _ _ _ ih | case6 _ _ _ _ _ _ _ _ ih => exact later (ih h)
  | case4 _ _ part _ _ _ long => exact .inl ⟨part, List.mem_cons_self, long⟩
  | case10 here part rest _ _ _ target link _ ih =>
    rcases ih h with ⟨part', mem, long⟩ | other
    · rcases List.mem_append.1 mem with mem | mem
      · exact .inr ⟨_, target, link, part', mem, long⟩
      · exact later (.inl ⟨part', mem, long⟩)
    · exact .inr other

theorem follow_nameTooLong (h : w.follow cwd p = .error .nameTooLong) : w.Overlong p := by
  rw [follow] at h
  split at h
  · cases h
  · split at h
    · next long => exact .path long
    · cases walked : w.walk maxLinks (start cwd p) p.parts with
      | ok a =>
        rw [walked] at h
        cases h
      | error fault =>
        rw [walked] at h
        cases h
        rcases walk_nameTooLong walked with ⟨part, mem, long⟩ | ⟨l, target, link, part, mem, long⟩
        · exact .name mem long
        · exact .target link mem long

/-- It is a failure only of what is too long to look for a file. -/
theorem regularFile?_error (h : w.regularFile? cwd p = .error fault) :
    fault = .nameTooLong ∧ w.Overlong p := by
  rw [regularFile?] at h
  split at h
  · next long =>
    cases h
    exact ⟨rfl, follow_nameTooLong long⟩
  · cases h
  · split at h <;> cases h

/-- So it is to look for a directory. -/
theorem isDirectory_error (h : w.isDirectory cwd p = .error fault) :
    fault = .nameTooLong ∧ w.Overlong p := by
  rw [isDirectory] at h
  split at h
  · next long =>
    cases h
    exact ⟨rfl, follow_nameTooLong long⟩
  · cases h
  · cases h

end World

namespace Locator

variable (l : Locator) (ws : Workspace)

/-- What makes the search from a path fail, and the failure. -/
inductive Obstacle (p : Path) : Failure → Prop
  /-- A path that is looked up is too long. -/
  | long {stem q : Path} (isStem : Stem ws p stem) (probe : .ok q ∈ l.probes stem)
    (long : ws.world.Overlong q) : Obstacle p (.file .nameTooLong q)
  /-- There is no name to append an extension to. -/
  | nameless {stem : Path} (isStem : Stem ws p stem) (tries : l.extensions ≠ [])
    (none : stem.name? = none) : Obstacle p (.emptyName stem)
  /-- With an extension the name is none. -/
  | misnamed {stem : Path} {name x : String} (isStem : Stem ws p stem) (mem : x ∈ l.extensions)
    (named : stem.name? = some name) (illegal : Path.isName (name ++ x) = false) :
    Obstacle p (.invalidName (name ++ x))
  /-- The path of the manifest is too long. -/
  | longManifest (long : ws.world.Overlong (p.child manifestName)) :
    Obstacle p (.file .nameTooLong (p.child manifestName))
  /-- The manifest is nested too deeply. -/
  | deepManifest {text : List Char} {innermost : Json.Container}
    (read : ws.readText (p.child manifestName) = .ok text)
    (deep : Json.parse text = .error (.tooDeep innermost)) : Obstacle p (.nestedTooDeep innermost)

/-- Why a specifier cannot be looked up in a source with given options. -/
inductive Unlocatable (specifier : String) (o : Options) : Failure → Prop
  /-- The root has no canonical path. -/
  | root {root : Path} {e : Failure} (rooted : o.root = some root)
    (lost : ws.world.canonical ws.cwd root = .error e) : Unlocatable specifier o e
  /-- Something stands in the way below the root. -/
  | obstacle {root base : Path} {e : Failure} (rooted : o.root = some root)
    (canonical : ws.world.canonical ws.cwd root = .ok base)
    (obstacle : Obstacle l ws (candidate specifier base) e) : Unlocatable specifier o e

variable {l ws} {p : Path} {e : Failure}

/-- A stem fails by its length, or by its name. -/
theorem obstacle_of_asFile {stem : Path} (isStem : Stem ws p stem)
    (h : l.asFile ws stem = .error e) : Obstacle l ws p e := by
  rcases firstFile_error h with mem | ⟨q, fault, probe, fails, rfl⟩
  · rcases mem_probes.1 mem with same | ⟨x, tried, extended⟩
    · cases same
    · rw [extend] at extended
      split at extended
      · next none =>
        cases extended
        exact .nameless isStem (List.ne_nil_of_mem tried) none
      · next name named =>
        dsimp only at extended
        split at extended
        · cases extended
        · next illegal =>
          cases extended
          exact .misnamed isStem tried named (by simpa using illegal)
  · obtain ⟨rfl, long⟩ := World.regularFile?_error fails
    exact .long isStem probe long

theorem obstacle_of_isDirectory {q : Path} (spot : Spot ws p q)
    (h : isDirectory ws q = .error e) : Obstacle l ws p e := by
  rw [isDirectory] at h
  split at h
  · next fails =>
    cases h
    obtain ⟨rfl, long⟩ := World.isDirectory_error fails
    exact .long (.spot spot) (mem_probes.2 (.inl rfl)) long
  · cases h

theorem obstacle_of_mainEntry (h : (mainEntry ws p).outcome = .error e) : Obstacle l ws p e := by
  rw [mainEntry] at h
  split at h
  · next fails =>
    cases h
    obtain ⟨rfl, long⟩ := World.regularFile?_error fails
    exact .longManifest long
  · cases h
  · split at h
    · next failure fails =>
      cases h
      rw [readManifest] at fails
      split at fails
      · cases fails
      · next text read =>
        split at fails
        · cases fails
        · cases fails
        · next deep =>
          cases fails
          exact .deepManifest read deep
    · cases h
    · split at h <;> cases h

/-- A search that fails has met an obstacle. -/
theorem search_obstacle (h : (l.search ws p).outcome = .error e) : Obstacle l ws p e := by
  rcases search_error h with ⟨stem, isStem, fails⟩ | ⟨q, spot, fails⟩ | fails
  · exact obstacle_of_asFile isStem fails
  · exact obstacle_of_isDirectory spot fails
  · exact obstacle_of_mainEntry fails

theorem find?_error {specifier : String} {base : Path}
    (h : (l.find? ws specifier base).outcome = .error e) :
    (l.search ws (candidate specifier base)).outcome = .error e := by
  rw [find?] at h
  split at h
  · cases h
  · dsimp only at h
    generalize (l.search ws (candidate specifier base)).outcome = found at h ⊢
    cases found with
    | ok found => cases h
    | error e' =>
      cases h
      rfl

/-- Locating fails only if the root has no canonical path or there is an obstacle below it. -/
theorem locateFor_error {specifier : String} {o : Options}
    (h : (l.locateFor ws specifier o).outcome = .error e) : Unlocatable l ws specifier o e := by
  rw [locateFor] at h
  split at h
  · cases h
  · split at h
    · next rooted =>
      split at h
      · next lost =>
        cases h
        exact .root rooted lost
      · next base canonical =>
        dsimp only at h
        split at h
        · cases h
        · exact .obstacle rooted canonical (search_obstacle (find?_error h))
    · cases h

end Locator

end ExportTrail
