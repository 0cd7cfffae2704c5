import ExportTrail.Locator

/-!
# Located files are regular

Whatever a locator finds is the location of a regular file of the world (`find?_regular`,
`locateFor_regular`). As the world is finite, so is the set of paths that a locator can give
(`locateFor_mem_locations`).
-/

namespace ExportTrail

/-- Whether a regular file is at a location. -/
def World.IsRegular (w : World) (l : Location) : Prop :=
  ∃ content, w.lookup l = some (.file content)

theorem World.IsRegular.mem_locations {w : World} {l : Location} (h : w.IsRegular l) :
    l ∈ w.locations := by
  obtain ⟨content, h⟩ := h
  cases l with
  | nil => simp [lookup] at h
  | cons name dir => exact mem_locations_of_lookup h

theorem World.regularFile?_regular {w : World} {cwd : Location} {p : Path} {l : Location}
    (h : w.regularFile? cwd p = .ok (some l)) : w.IsRegular l := by
  rw [regularFile?] at h
  split at h
  · simp at h
  · simp at h
  · split at h
    · next content hl =>
      obtain rfl : _ = l := by simpa using h
      exact ⟨content, hl⟩
    · simp at h

namespace Locator

variable {l : Locator} {ws : Workspace} {loc : Location}

theorem firstFile_regular {ps : List (Except Failure Path)}
    (h : firstFile ws ps = .ok (some loc)) : ws.world.IsRegular loc := by
  fun_induction firstFile ws ps with
  | case1 => simp at h
  | case2 => simp at h
  | case3 => simp at h
  | case4 p ps l hl =>
    obtain rfl : l = loc := by simpa using h
    exact World.regularFile?_regular hl
  | case5 p ps hl ih => exact ih h

theorem asFile_regular {p : Path} (h : l.asFile ws p = .ok (some loc)) :
    ws.world.IsRegular loc :=
  firstFile_regular h

theorem index_regular {p : Path} (h : l.index ws p = .ok (some loc)) :
    ws.world.IsRegular loc := by
  rw [index] at h
  split at h
  · simp at h
  · simp at h
  · exact asFile_regular h

theorem asFileOrIndex_regular {p : Path} (h : l.asFileOrIndex ws p = .ok (some loc)) :
    ws.world.IsRegular loc := by
  rw [asFileOrIndex] at h
  split at h
  · exact index_regular h
  · exact asFile_regular h

theorem asDirectory_regular {p : Path} (h : (l.asDirectory ws p).outcome = .ok (some loc)) :
    ws.world.IsRegular loc := by
  rw [asDirectory] at h
  split at h
  · simp [Recorded.quiet] at h
  · simp [Recorded.quiet] at h
  · dsimp only at h
    split at h
    · simp at h
    · exact index_regular h
    · split at h
      · exact index_regular h
      · exact asFileOrIndex_regular h

theorem search_regular {p : Path} (h : (l.search ws p).outcome = .ok (some loc)) :
    ws.world.IsRegular loc := by
  rw [search] at h
  split at h
  · exact asDirectory_regular h
  · exact asFile_regular h

/-- What a specifier denotes is the path of what is found. -/
theorem find?_search {specifier : String} {base path : Path}
    (h : (l.find? ws specifier base).outcome = .ok (some path)) :
    ∃ loc, path = Location.toPath loc ∧
      (l.search ws (candidate specifier base)).outcome = .ok (some loc) := by
  rw [find?] at h
  split at h
  · simp [Recorded.quiet] at h
  · dsimp only at h
    generalize hs : (l.search ws (candidate specifier base)).outcome = found at h
    cases found with
    | error e => simp [Except.map] at h
    | ok found =>
      cases found with
      | none => simp [Except.map] at h
      | some loc =>
        obtain rfl : loc.toPath = path := by simpa [Except.map] using h
        exact ⟨loc, rfl, rfl⟩

theorem find?_regular {specifier : String} {base path : Path}
    (h : (l.find? ws specifier base).outcome = .ok (some path)) :
    ∃ loc, path = Location.toPath loc ∧ ws.world.IsRegular loc := by
  obtain ⟨loc, same, found⟩ := find?_search h
  exact ⟨loc, same, search_regular found⟩

theorem locateFor_regular {specifier : String} {o : Options} {path : Path}
    (h : (l.locateFor ws specifier o).outcome = .ok (some path)) :
    ∃ loc, path = Location.toPath loc ∧ ws.world.IsRegular loc := by
  rw [locateFor] at h
  split at h
  · simp at h
  · split at h
    · split at h
      · simp [Recorded.quiet] at h
      · dsimp only at h
        split at h
        · simp at h
        · exact find?_regular h
    · simp at h

theorem locateFor_mem_locations {specifier : String} {o : Options} {path : Path}
    (h : (l.locateFor ws specifier o).outcome = .ok (some path)) :
    path ∈ ws.world.locations.map Location.toPath := by
  obtain ⟨loc, rfl, regular⟩ := locateFor_regular h
  exact List.mem_map_of_mem regular.mem_locations

end Locator

end ExportTrail
