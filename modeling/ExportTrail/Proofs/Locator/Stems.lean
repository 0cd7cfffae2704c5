import ExportTrail.Locator

/-!
# Where a locator looks

A search for a module goes to at most two places (`Spot`): the path itself and, if it is a
directory, the main entry that its manifest names. At each it looks for a file, and for an index
below it; the paths that it looks under, with and without extensions, are the stems of the search
(`Stem`).

* `search_stem`: what is found is found under a stem.
* `search_error`: what makes a search fail is a stem, a place that is tested for a directory, or the
  manifest.
-/

namespace ExportTrail.Locator

variable (ws : Workspace)

/-- The places that a search from a path goes to. -/
inductive Spot (p : Path) : Path → Prop
  | itself : Spot p p
  /-- The main entry that the manifest names. -/
  | entry {main : String} (named : (mainEntry ws p).outcome = .ok (some main)) :
    Spot p (p ++ Path.ofString main)

/-- The paths under which a search from a path looks for a file, with and without extensions. -/
inductive Stem (p : Path) : Path → Prop
  | spot {q : Path} (spot : Spot ws p q) : Stem p q
  | index {q : Path} (spot : Spot ws p q) : Stem p (q.child indexName)

variable {ws} {l : Locator} {loc : Location} {p : Path} {e : Failure}

/-! ## Files -/

theorem mem_probes {outcome : Except Failure Path} :
    outcome ∈ l.probes p ↔ outcome = .ok p ∨ ∃ x ∈ l.extensions, extend p x = outcome := by
  rw [probes, List.mem_cons, List.mem_map]

theorem firstFile_ok {ps : List (Except Failure Path)} (h : firstFile ws ps = .ok (some loc)) :
    ∃ q, .ok q ∈ ps ∧ ws.world.regularFile? ws.cwd q = .ok (some loc) := by
  fun_induction firstFile ws ps with
  | case1 => cases h
  | case2 => cases h
  | case3 => cases h
  | case4 q ps _ found =>
    cases h
    exact ⟨q, List.mem_cons_self, found⟩
  | case5 q ps _ ih =>
    obtain ⟨q', mem, found⟩ := ih h
    exact ⟨q', List.mem_cons_of_mem _ mem, found⟩

/-- A path cannot be formed, or not be looked up. -/
theorem firstFile_error {ps : List (Except Failure Path)} (h : firstFile ws ps = .error e) :
    .error e ∈ ps ∨ ∃ q fault, .ok q ∈ ps ∧ ws.world.regularFile? ws.cwd q = .error fault ∧
      e = .file fault q := by
  fun_induction firstFile ws ps with
  | case1 => cases h
  | case2 =>
    cases h
    exact .inl List.mem_cons_self
  | case3 q ps fault fails =>
    cases h
    exact .inr ⟨q, fault, List.mem_cons_self, fails, rfl⟩
  | case4 => cases h
  | case5 q ps _ ih =>
    rcases ih h with mem | ⟨q', fault, mem, fails⟩
    · exact .inl (List.mem_cons_of_mem _ mem)
    · exact .inr ⟨q', fault, List.mem_cons_of_mem _ mem, fails⟩

/-! ## Searches -/

/-- Where there is a main entry there is a manifest. -/
theorem regularFile?_of_mainEntry {main : String} (h : (mainEntry ws p).outcome = .ok (some main)) :
    ∃ loc, ws.world.regularFile? ws.cwd (p.child manifestName) = .ok (some loc) := by
  rw [mainEntry] at h
  split at h
  · cases h
  · cases h
  · next loc found => exact ⟨loc, found⟩

theorem index_ok (h : l.index ws p = .ok (some loc)) :
    l.asFile ws (p.child indexName) = .ok (some loc) := by
  rw [index] at h
  split at h
  · cases h
  · cases h
  · exact h

theorem asFileOrIndex_ok (h : l.asFileOrIndex ws p = .ok (some loc)) :
    l.asFile ws p = .ok (some loc) ∨ l.asFile ws (p.child indexName) = .ok (some loc) := by
  rw [asFileOrIndex] at h
  split at h
  · exact .inr (index_ok h)
  · exact .inl h

/-- What a search finds, it finds under one of its stems. -/
theorem search_stem (h : (l.search ws p).outcome = .ok (some loc)) :
    ∃ stem, Stem ws p stem ∧ l.asFile ws stem = .ok (some loc) := by
  have ownIndex (h : l.index ws p = .ok (some loc)) :
      ∃ stem, Stem ws p stem ∧ l.asFile ws stem = .ok (some loc) :=
    ⟨_, .index .itself, index_ok h⟩
  rw [search] at h
  split at h
  · rw [asDirectory] at h
    split at h
    · cases h
    · cases h
    · dsimp only at h
      split at h
      · cases h
      · exact ownIndex h
      · next main named =>
        split at h
        · exact ownIndex h
        · rcases asFileOrIndex_ok h with file | index
          · exact ⟨_, .spot (.entry named), file⟩
          · exact ⟨_, .index (.entry named), index⟩
  · exact ⟨p, .spot .itself, h⟩

theorem index_error (h : l.index ws p = .error e) :
    isDirectory ws p = .error e ∨ l.asFile ws (p.child indexName) = .error e := by
  rw [index] at h
  split at h
  · next fails =>
    cases h
    exact .inl fails
  · cases h
  · exact .inr h

theorem asFileOrIndex_error (h : l.asFileOrIndex ws p = .error e) :
    l.asFile ws p = .error e ∨ isDirectory ws p = .error e ∨
      l.asFile ws (p.child indexName) = .error e := by
  rw [asFileOrIndex] at h
  split at h
  · exact .inr (index_error h)
  · exact .inl h

/-- A search that fails does so under a stem, in testing a place for a directory, or on account of
the manifest. -/
theorem search_error (h : (l.search ws p).outcome = .error e) :
    (∃ stem, Stem ws p stem ∧ l.asFile ws stem = .error e) ∨
      (∃ q, Spot ws p q ∧ isDirectory ws q = .error e) ∨ (mainEntry ws p).outcome = .error e := by
  have ownIndex (h : l.index ws p = .error e) :
      (∃ stem, Stem ws p stem ∧ l.asFile ws stem = .error e) ∨
        (∃ q, Spot ws p q ∧ isDirectory ws q = .error e) ∨ (mainEntry ws p).outcome = .error e := by
    rcases index_error h with directory | file
    · exact .inr (.inl ⟨p, .itself, directory⟩)
    · exact .inl ⟨_, .index .itself, file⟩
  rw [search] at h
  split at h
  · rw [asDirectory] at h
    split at h
    · next fails =>
      cases h
      exact .inr (.inl ⟨p, .itself, fails⟩)
    · cases h
    · dsimp only at h
      split at h
      · next fails =>
        cases h
        exact .inr (.inr fails)
      · exact ownIndex h
      · next main named =>
        split at h
        · exact ownIndex h
        · rcases asFileOrIndex_error h with file | directory | index
          · exact .inl ⟨_, .spot (.entry named), file⟩
          · exact .inr (.inl ⟨_, .entry named, directory⟩)
          · exact .inl ⟨_, .index (.entry named), index⟩
  · exact .inl ⟨p, .spot .itself, h⟩

end ExportTrail.Locator
