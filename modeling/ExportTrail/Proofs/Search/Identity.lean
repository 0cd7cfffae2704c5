import ExportTrail.Proofs.Locator.Order
import ExportTrail.Proofs.Search.Books
import ExportTrail.Proofs.Search.Cap
import ExportTrail.Proofs.Search.Met

/-!
# One file, one path

A locator tests the paths that it tries as they are written, through links and steps up, and gives
the canonical path of the one that it takes. Whatever the spelling, this is the path of the entry
that the walk came to, so that two spellings of one file are located as one path, and a search,
which enters no path twice, loads no file twice.

* `canonicalFile_toPath`: the path of a regular file is in canonical form.
* `locate_chosen`: a specifier is located as the path of the file that its candidate leads to.
* `located_paths_identify`: both together, and what they say of the modules that a search loads.
-/

namespace ExportTrail.Search

open World Locator

variable {ws : Workspace} {l : Locator} {specifier base : String} {p : Path} {loc : Location}

/-! ## Canonical form -/

/-- A path in canonical form that names a regular file. -/
structure CanonicalFile (ws : Workspace) (p : Path) : Prop where
  absolute : p.anchor = .root
  /-- It has no empty part, no `.` and no `..`. -/
  plain : ∀ part ∈ p.parts, IsName part
  /-- Neither the file nor a directory above it is a link. -/
  unlinked : ∀ above, above <+: p.parts → ∀ target,
    ws.world.lookup above.reverse ≠ some (.link target)
  regular : ws.world.IsRegular p.parts.reverse
  fixed : ws.world.canonical ws.cwd p = .ok p

theorem location_toPath (loc : Location) : (Location.toPath loc).parts.reverse = loc :=
  List.reverse_reverse loc

theorem toPath_injective : Function.Injective Location.toPath := by
  intro loc loc' same
  rw [← location_toPath loc, same, location_toPath]

theorem canonicalFile_toPath (named : ws.world.Named) (regular : ws.world.IsRegular loc) :
    CanonicalFile ws loc.toPath := by
  obtain ⟨content, found⟩ := regular
  refine ⟨rfl, ?_, ?_, ?_, canonical_toPath named (by simp) found⟩
  · intro part mem
    exact (named.of_mem found (List.mem_reverse.1 mem)).1
  · rintro above ⟨inner, split⟩ target link
    have whole : inner.reverse ++ above.reverse = loc := by
      rw [← List.reverse_append, split, location_toPath]
    cases inner with
    | nil =>
      rw [List.reverse_nil, List.nil_append] at whole
      rw [whole, found] at link
      cases link
    | cons name inner =>
      rw [← whole] at found
      rw [lookup_above found (by simp)] at link
      cases link
  · rw [location_toPath]
    exact ⟨content, found⟩

/-! ## Located paths -/

theorem find?_of_locate (h : (l.locate ws specifier base).outcome = .ok p) :
    (l.find? ws specifier (Path.ofString base)).outcome = .ok (some p) := by
  rw [locate] at h
  split at h
  · cases h
  · cases h
  · next path found =>
    cases h
    exact found

/-- A specifier is located as the path of the file that the candidate leads to which is taken for
it. This is the canonical path of the candidate. -/
theorem locate_chosen (named : ws.world.Named) (h : (l.locate ws specifier base).outcome = .ok p) :
    ∃ q loc, l.chosen? ws (candidate specifier (Path.ofString base)) = some q ∧
      ws.world.follow ws.cwd q = .ok loc ∧ ws.world.canonical ws.cwd q = .ok p ∧
      p = Location.toPath loc ∧ ws.world.IsRegular loc := by
  obtain ⟨loc, rfl, found⟩ := find?_search (find?_of_locate h)
  obtain ⟨q, chosen, leads, canonical⟩ := canonical_of_chosen named found
  exact ⟨q, loc, chosen, leads, canonical, rfl, search_regular found⟩

/-! ## Loaded modules -/

theorem run_loadsRegular (r : Resolver) (first : Config) (start : first.progress.acts = []) :
    LoadsRegular ws (run r ws first).2.acts := by
  refine run_acts_induction ?_ ?_
  · rw [start]
    intro m outcome mem
    cases mem
  · intro c edge name below m _ earlier _ leads m' outcome mem
    rcases List.mem_append.1 mem with old | new
    · exact earlier m' outcome old
    · obtain ⟨rfl, -⟩ : m' = m ∧ _ := by simpa using new
      exact leads.regular

theorem query_loadsRegular (r : Resolver) (ws : Workspace) (q : Session.Query) (before : List Path)
    (serial : Nat) :
    LoadsRegular ws (q.run r ws (.start before serial)).2.acts := by
  cases frame : q.frame? with
  | none =>
    rw [Session.Query.run_of_frame?_none q r ws _ frame]
    intro m outcome mem
    cases mem
  | some frame' =>
    rw [Session.Query.run_of_frame? q r ws _ frame]
    exact run_loadsRegular r _ rfl

theorem mem_loads {acts : List Act} {m : Path} (h : m ∈ loads acts) :
    ∃ outcome, .load m outcome ∈ acts := by
  obtain ⟨act, mem, loaded⟩ := List.mem_filterMap.1 h
  cases act with
  | mark m' => cases loaded
  | load m' outcome =>
    cases loaded
    exact ⟨outcome, mem⟩

/-- The modules that a search loads are different files. -/
theorem query_files (r : Resolver) (ws : Workspace) (q : Session.Query) (before : List Path)
    (serial : Nat) :
    ∃ files : List Location, files.Nodup ∧
      loads (q.run r ws (.start before serial)).2.acts = files.map Location.toPath ∧
      ∀ file ∈ files, ws.world.IsRegular file := by
  obtain ⟨acts, keeps, -⟩ := query_books r ws q (.start before serial)
  have recorded : (q.run r ws (.start before serial)).2.acts = acts := keeps.recorded
  have regular := query_loadsRegular r ws q before serial
  rw [recorded] at regular ⊢
  have paths : ∀ m ∈ loads acts, ∃ loc, m = Location.toPath loc ∧ ws.world.IsRegular loc := by
    intro m mem
    obtain ⟨outcome, loaded⟩ := mem_loads mem
    exact regular m outcome loaded
  have same : loads acts = ((loads acts).map fun m => m.parts.reverse).map Location.toPath := by
    rw [List.map_map]
    refine (List.map_id _).symm.trans (List.map_congr_left fun m mem => ?_)
    obtain ⟨loc, rfl, -⟩ := paths m mem
    rw [Function.comp_apply, location_toPath, id]
  refine ⟨_, ?_, same, ?_⟩
  · have once := keeps.books.once
    rw [same] at once
    exact once.of_map
  · intro file mem
    obtain ⟨m, loaded, rfl⟩ := List.mem_map.1 mem
    obtain ⟨loc, rfl, found⟩ := paths m loaded
    rwa [location_toPath]

/-- **One file has one path.** A located path is the canonical path of a regular file, and that of
the candidate that was taken; two located paths are the same exactly if their candidates lead to the
same file; and the modules that a search loads are different files, each under its canonical path.
-/
theorem located_paths_identify (named : ws.world.Named) :
    (∀ (l : Locator) (specifier base : String) (p : Path),
      (l.locate ws specifier base).outcome = .ok p →
        CanonicalFile ws p ∧
        ∃ q, l.chosen? ws (candidate specifier (Path.ofString base)) = some q ∧
          ws.world.canonical ws.cwd q = .ok p) ∧
    (∀ (l l' : Locator) (specifier base specifier' base' : String) (p p' q q' : Path),
      (l.locate ws specifier base).outcome = .ok p →
      (l'.locate ws specifier' base').outcome = .ok p' →
      l.chosen? ws (candidate specifier (Path.ofString base)) = some q →
      l'.chosen? ws (candidate specifier' (Path.ofString base')) = some q' →
        (p = p' ↔ ws.world.follow ws.cwd q = ws.world.follow ws.cwd q')) ∧
    ∀ (r : Resolver) (query : Session.Query) (before : List Path) (serial : Nat),
      ∃ files : List Location, files.Nodup ∧
        loads (query.run r ws (.start before serial)).2.acts = files.map Location.toPath ∧
        ∀ file ∈ files, CanonicalFile ws file.toPath := by
  refine ⟨?_, ?_, ?_⟩
  · intro l specifier base p located
    obtain ⟨q, loc, chosen, -, canonical, rfl, regular⟩ := locate_chosen named located
    exact ⟨canonicalFile_toPath named regular, q, chosen, canonical⟩
  · intro l l' specifier base specifier' base' p p' q q' located located' chosen chosen'
    obtain ⟨_, loc, taken, leads, -, rfl, -⟩ := locate_chosen named located
    obtain ⟨_, loc', taken', leads', -, rfl, -⟩ := locate_chosen named located'
    obtain rfl := Option.some.inj (taken.symm.trans chosen)
    obtain rfl := Option.some.inj (taken'.symm.trans chosen')
    rw [leads, leads', toPath_injective.eq_iff, Except.ok.injEq]
  · intro r query before serial
    obtain ⟨files, nodup, loaded, regular⟩ := query_files r ws query before serial
    exact ⟨files, nodup, loaded, fun file mem => canonicalFile_toPath named (regular file mem)⟩

namespace TwoSpellings

/-- A file that is reached through a link to its directory, and through a link to its entry. -/
def workspace : Workspace where
  world := ⟨[(["d"], .directory), (["a.js", "d"], .file []), (["e"], .link "d"),
    (["f.js"], .link "./d/../e/a.js")]⟩
  cwd := ["d"]
  grammars _ _ := ⟨⟨"program", true, false, false, 0, 0, [], []⟩, false⟩

theorem named : workspace.world.Named := by
  refine .of_entries ?_
  simp [workspace, IsName, Path.isNulPart]

end TwoSpellings

open TwoSpellings in
/-- From the directory of the file and from the root, by a link each. -/
theorem located_paths_identify_links :
    ∃ p, (Locator.default.locate workspace "./f" "..").outcome = .ok p ∧
      (Locator.default.locate workspace "./e/a" "/").outcome = .ok p ∧
      CanonicalFile workspace p := by
  have upward : (Locator.default.locate workspace "./f" "..").outcome =
      .ok ⟨.root, ["d", "a.js"]⟩ := by
    cbv
  have downward : (Locator.default.locate workspace "./e/a" "/").outcome =
      .ok ⟨.root, ["d", "a.js"]⟩ := by
    cbv
  exact ⟨_, upward, downward, ((located_paths_identify named).1 _ _ _ _ upward).1⟩

end ExportTrail.Search
