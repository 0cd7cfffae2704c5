import ExportTrail.Proofs.Locator.Stems
import ExportTrail.Proofs.World.Resolves
import ExportTrail.Locator.Regular
import Mathlib

/-!
# The order in which a locator looks

A search for a module goes through a list of paths and takes the first one that leads to a regular
file. `Locator.candidates` writes the list down: the path itself and with each extension; if it is a
directory, the main entry that its manifest names, with each extension, and the index of the entry;
and last its own index.

* `search_ok`: a search that ends well has taken the first file of the list, or there is none.
* `search_unobstructed`: a search ends well if it meets no path that cannot be looked up
  (`Unobstructed`) and no manifest that is nested too deeply.
* `locate_first_candidate`: so what a specifier is located as is the canonical path of the first
  file of its list.
-/

namespace ExportTrail.Locator

variable {l : Locator} {ws : Workspace} {c p : Path}

/-! ## The list -/

/-- The regular file that a path leads to. One that cannot be formed or looked up leads to none. -/
def fileAt? (ws : Workspace) : Except Failure Path → Option Location
  | .ok q =>
    match ws.world.regularFile? ws.cwd q with
    | .ok found => found
    | .error _ => none
  | .error _ => none

/-- The path, if it leads to a regular file. -/
def ifFile? (ws : Workspace) : Except Failure Path → Option Path
  | .ok q => if (fileAt? ws (.ok q)).isSome then some q else none
  | .error _ => none

/-- Whether a path leads to a directory. -/
def leadsToDirectory (ws : Workspace) (p : Path) : Bool :=
  match isDirectory ws p with
  | .ok b => b
  | .error _ => false

/-- The entry that the manifest of a directory names: the manifest is a regular file that holds a
document, this is an object, and its member `main` is a text that is not empty. -/
def main? (ws : Workspace) (directory : Path) : Option String :=
  if (fileAt? ws (.ok (directory.child manifestName))).isSome then
    match ws.readText (directory.child manifestName) with
    | .error _ => none
    | .ok text =>
      match Json.parse text with
      | .error _ => none
      | .ok document => ((document.member? "main").bind Json.text?).filter (· ≠ "")
  else none

/-- The paths under which the index of a directory is looked for. -/
def indexCandidates (l : Locator) (ws : Workspace) (p : Path) : List (Except Failure Path) :=
  if leadsToDirectory ws p then l.probes (p.child indexName) else []

/-- The paths under which the main entry of a directory is looked for. -/
def entryCandidates (l : Locator) (ws : Workspace) (c : Path) : List (Except Failure Path) :=
  if leadsToDirectory ws c then
    match main? ws c with
    | some main =>
      l.probes (c ++ Path.ofString main) ++ l.indexCandidates ws (c ++ Path.ofString main)
    | none => []
  else []

/-- The paths under which a search from a path looks for a file, in order. A path that cannot be
formed is an error. -/
def candidates (l : Locator) (ws : Workspace) (c : Path) : List (Except Failure Path) :=
  l.probes c ++ l.entryCandidates ws c ++ l.indexCandidates ws c

/-- The first of the paths that leads to a regular file. -/
def chosen? (l : Locator) (ws : Workspace) (c : Path) : Option Path :=
  (l.candidates ws c).findSome? (ifFile? ws)

theorem regularFile?_of_fileAt? {q : Path} {loc : Location} (h : fileAt? ws (.ok q) = some loc) :
    ws.world.regularFile? ws.cwd q = .ok (some loc) := by
  rw [fileAt?] at h
  split at h
  · next found => rw [found, h]
  · cases h

theorem findSome?_fileAt? (probes : List (Except Failure Path)) :
    probes.findSome? (fileAt? ws) =
      (probes.findSome? (ifFile? ws)).bind fun q => fileAt? ws (.ok q) := by
  induction probes with
  | nil => rfl
  | cons probe probes ih =>
    rw [List.findSome?_cons, List.findSome?_cons]
    cases probe with
    | error e => exact ih
    | ok q => cases found : fileAt? ws (.ok q) <;> simp [ifFile?, found, ih]

/-- What is found is where the path that is chosen leads. -/
theorem chosen?_eq_some {loc : Location}
    (h : (l.candidates ws c).findSome? (fileAt? ws) = some loc) :
    ∃ q, l.chosen? ws c = some q ∧ ws.world.regularFile? ws.cwd q = .ok (some loc) := by
  rw [findSome?_fileAt?] at h
  obtain ⟨q, chosen, found⟩ := Option.bind_eq_some_iff.1 h
  exact ⟨q, chosen, regularFile?_of_fileAt? found⟩

theorem chosen?_eq_none (h : (l.candidates ws c).findSome? (fileAt? ws) = none) :
    l.chosen? ws c = none := by
  rw [List.findSome?_eq_none_iff] at h
  rw [chosen?, List.findSome?_eq_none_iff]
  intro probe mem
  cases probe with
  | error e => rfl
  | ok q => simp [ifFile?, h _ mem]

/-! ## Searches that end well -/

section

variable {found : Option Location}

theorem firstFile_first {probes : List (Except Failure Path)}
    (h : firstFile ws probes = .ok found) : probes.findSome? (fileAt? ws) = found := by
  fun_induction firstFile ws probes with
  | case1 => cases h; rfl
  | case2 | case3 => cases h
  | case4 q probes loc leads =>
    cases h
    rw [List.findSome?_cons, fileAt?, leads]
  | case5 q probes leads ih =>
    rw [List.findSome?_cons, fileAt?, leads]
    exact ih h

theorem index_first (h : l.index ws p = .ok found) :
    (l.indexCandidates ws p).findSome? (fileAt? ws) = found := by
  rw [index] at h
  rw [indexCandidates, leadsToDirectory]
  split at h
  · cases h
  · next directory => cases h; rw [directory]; rfl
  · next directory =>
    rw [directory]
    exact firstFile_first h

theorem asFileOrIndex_first (h : l.asFileOrIndex ws p = .ok found) :
    (l.probes p ++ l.indexCandidates ws p).findSome? (fileAt? ws) = found := by
  rw [asFileOrIndex] at h
  rw [List.findSome?_append]
  split at h
  · next file => rw [firstFile_first file, index_first h, Option.none_or]
  · next other =>
    rw [firstFile_first h]
    cases found with
    | none => exact (other h).elim
    | some loc => rfl

/-- A main entry that is found is the one that the manifest names. -/
theorem mainEntry_eq {main : Option String} (h : (mainEntry ws c).outcome = .ok main) :
    main? ws c = main := by
  rw [mainEntry] at h
  rw [main?, fileAt?]
  split at h
  · cases h
  · next leads => cases h; rw [leads]; rfl
  · next loc leads =>
    rw [leads]
    dsimp only
    rw [if_pos Option.isSome_some]
    rw [readManifest] at h
    cases read : ws.readText (c.child manifestName) with
    | error e => rw [read] at h; cases h; rfl
    | ok text =>
      rw [read] at h
      dsimp only at h ⊢
      cases parsed : Json.parse text with
      | error fault => rw [parsed] at h; cases fault <;> cases h <;> rfl
      | ok document =>
        rw [parsed] at h
        dsimp only at h ⊢
        cases named : (document.member? "main").bind Json.text? with
        | none => rw [named] at h; cases h; rfl
        | some main =>
          rw [named] at h
          by_cases empty : main = "" <;> simp_all [Recorded.quiet, Option.filter]

theorem asDirectory_first (h : (l.asDirectory ws c).outcome = .ok found) :
    (l.entryCandidates ws c ++ l.indexCandidates ws c).findSome? (fileAt? ws) = found := by
  rw [asDirectory] at h
  rw [List.findSome?_append, entryCandidates, leadsToDirectory]
  split at h
  · cases h
  · next directory =>
    cases h
    rw [indexCandidates, leadsToDirectory, directory]
    rfl
  · next directory =>
    rw [directory, if_pos rfl]
    dsimp only at h
    split at h
    · cases h
    · next none =>
      rw [mainEntry_eq none]
      exact index_first h
    · next main named =>
      rw [mainEntry_eq named]
      split at h
      · next nothing => rw [asFileOrIndex_first nothing, index_first h, Option.none_or]
      · next other =>
        rw [asFileOrIndex_first h]
        cases found with
        | none => exact (other h).elim
        | some loc => rfl

/-- A search that ends well has taken the first path of the list that leads to a regular file, or no
path of the list does. -/
theorem search_ok (h : (l.search ws c).outcome = .ok found) :
    (l.candidates ws c).findSome? (fileAt? ws) = found := by
  rw [search] at h
  rw [candidates, List.append_assoc, List.findSome?_append]
  split at h
  · next nothing => rw [firstFile_first nothing, asDirectory_first h, Option.none_or]
  · next other =>
    have file : l.asFile ws c = .ok found := h
    rw [firstFile_first file]
    cases found with
    | none => exact (other h).elim
    | some loc => rfl

end

/-! ## Searches that nothing stands in the way of -/

/-- Whether a path can be formed, and neither it nor a name on the way is too long. -/
def Legal (ws : Workspace) : Except Failure Path → Prop
  | .ok q => ws.world.follow ws.cwd q ≠ .error .nameTooLong
  | .error _ => False

/-- Whether the paths are legal, as far as the first that leads to a regular file. -/
def Clear (ws : Workspace) : List (Except Failure Path) → Prop
  | [] => True
  | probe :: probes => Legal ws probe ∧ (fileAt? ws probe = none → Clear ws probes)

/-- Whether a search from a path comes to the manifest: the path leads to a directory, and neither
it nor the path with an extension to a regular file. -/
def Consults (l : Locator) (ws : Workspace) (c : Path) : Prop :=
  (l.probes c).findSome? (fileAt? ws) = none ∧ leadsToDirectory ws c = true

/-- A search from a path meets nothing that cannot be looked up. -/
structure Unobstructed (l : Locator) (ws : Workspace) (c : Path) : Prop where
  probes : Clear ws (l.candidates ws c)
  manifest : l.Consults ws c → Legal ws (.ok (c.child manifestName))

/-- Whether the manifest of a directory holds a text in which containers are nested too deeply. -/
def NestedTooDeep (ws : Workspace) (directory : Path) : Prop :=
  ∃ text innermost, ws.readText (directory.child manifestName) = .ok text ∧
    Json.parse text = .error (.tooDeep innermost)

theorem clear_append {probes probes' : List (Except Failure Path)} :
    Clear ws (probes ++ probes') ↔
      Clear ws probes ∧ (probes.findSome? (fileAt? ws) = none → Clear ws probes') := by
  induction probes with
  | nil => simp [Clear]
  | cons probe probes ih =>
    rw [List.cons_append, Clear, Clear, ih, List.findSome?_cons]
    cases fileAt? ws probe <;> simp [and_assoc]

/-- Every search for a file starts with the path itself. -/
theorem legal_of_clear (h : Clear ws (l.probes p)) : Legal ws (.ok p) := h.1

theorem regularFile?_of_legal {q : Path} (legal : Legal ws (.ok q)) :
    ws.world.regularFile? ws.cwd q = .ok (fileAt? ws (.ok q)) := by
  rw [fileAt?, World.regularFile?]
  split
  · next long => exact absurd long legal
  · rfl
  · split <;> rfl

theorem isDirectory_of_legal (legal : Legal ws (.ok p)) :
    isDirectory ws p = .ok (leadsToDirectory ws p) := by
  rw [leadsToDirectory, isDirectory, World.isDirectory]
  split
  · next fails =>
    split at fails
    · next long => exact absurd long legal
    · cases fails
    · cases fails
  · rfl

theorem firstFile_clear {probes : List (Except Failure Path)} (clear : Clear ws probes) :
    ∃ found, firstFile ws probes = .ok found := by
  fun_induction firstFile ws probes with
  | case1 => exact ⟨_, rfl⟩
  | case2 => exact clear.1.elim
  | case3 q probes fault fails =>
    rw [regularFile?_of_legal clear.1] at fails
    cases fails
  | case4 q probes loc _ => exact ⟨_, rfl⟩
  | case5 q probes leads ih =>
    rw [regularFile?_of_legal clear.1] at leads
    exact ih (clear.2 (Except.ok.inj leads))

theorem index_clear (legal : Legal ws (.ok p)) (clear : Clear ws (l.indexCandidates ws p)) :
    ∃ found, l.index ws p = .ok found := by
  rw [indexCandidates] at clear
  rw [index, isDirectory_of_legal legal]
  cases directory : leadsToDirectory ws p with
  | false => exact ⟨_, rfl⟩
  | true =>
    rw [directory, if_pos rfl] at clear
    exact firstFile_clear clear

theorem asFileOrIndex_clear (clear : Clear ws (l.probes p ++ l.indexCandidates ws p)) :
    ∃ found, l.asFileOrIndex ws p = .ok found := by
  obtain ⟨file, index⟩ := clear_append.1 clear
  obtain ⟨found, first⟩ := firstFile_clear file
  rw [asFileOrIndex, asFile, first]
  cases found with
  | none => exact index_clear (legal_of_clear file) (index (firstFile_first first))
  | some loc => exact ⟨_, rfl⟩

theorem mainEntry_clear (legal : Legal ws (.ok (c.child manifestName)))
    (shallow : ¬ NestedTooDeep ws c) : ∃ main, (mainEntry ws c).outcome = .ok main := by
  have manifest : ∃ document, readManifest ws (c.child manifestName) = .ok document := by
    rw [readManifest]
    split
    · exact ⟨_, rfl⟩
    · next text read =>
      split
      · exact ⟨_, rfl⟩
      · exact ⟨_, rfl⟩
      · next innermost deep => exact absurd ⟨text, innermost, read, deep⟩ shallow
  obtain ⟨document, manifest⟩ := manifest
  rw [mainEntry, regularFile?_of_legal legal, manifest]
  cases fileAt? ws (.ok (c.child manifestName)) with
  | none => exact ⟨_, rfl⟩
  | some loc =>
    cases document with
    | none => exact ⟨_, rfl⟩
    | some document =>
      dsimp only
      cases (document.member? "main").bind Json.text? <;> exact ⟨_, rfl⟩

theorem asDirectory_clear (legal : Legal ws (.ok c))
    (clear : Clear ws (l.entryCandidates ws c ++ l.indexCandidates ws c))
    (manifest : leadsToDirectory ws c = true →
      Legal ws (.ok (c.child manifestName)) ∧ ¬ NestedTooDeep ws c) :
    ∃ found, (l.asDirectory ws c).outcome = .ok found := by
  obtain ⟨entries, index⟩ := clear_append.1 clear
  rw [asDirectory, isDirectory_of_legal legal]
  cases directory : leadsToDirectory ws c with
  | false => exact ⟨_, rfl⟩
  | true =>
    rw [entryCandidates, directory, if_pos rfl] at entries index
    obtain ⟨manifest, shallow⟩ := manifest directory
    obtain ⟨main, named⟩ := mainEntry_clear manifest shallow
    dsimp only
    rw [named]
    rw [mainEntry_eq named] at entries index
    cases main with
    | none => exact index_clear legal (index rfl)
    | some main =>
      obtain ⟨found, first⟩ := asFileOrIndex_clear entries
      dsimp only
      rw [first]
      cases found with
      | none => exact index_clear legal (index (asFileOrIndex_first first))
      | some loc => exact ⟨_, rfl⟩

/-- A search ends well if nothing stands in its way and no manifest is nested too deeply. -/
theorem search_unobstructed (clear : l.Unobstructed ws c)
    (shallow : l.Consults ws c → ¬ NestedTooDeep ws c) :
    ∃ found, (l.search ws c).outcome = .ok found := by
  have probes := clear.probes
  rw [candidates, List.append_assoc, clear_append] at probes
  obtain ⟨found, first⟩ := firstFile_clear probes.1
  rw [search, asFile, first]
  cases found with
  | none =>
    have nothing := firstFile_first first
    refine asDirectory_clear (legal_of_clear probes.1) (probes.2 nothing) fun directory => ?_
    exact ⟨clear.manifest ⟨nothing, directory⟩, shallow ⟨nothing, directory⟩⟩
  | some loc => exact ⟨_, rfl⟩

/-! ## Located paths -/

/-- What is found of a candidate is the location of its first file; its path is the canonical one. -/
theorem canonical_of_chosen (named : ws.world.Named) {loc : Location}
    (h : (l.search ws c).outcome = .ok (some loc)) :
    ∃ q, l.chosen? ws c = some q ∧ ws.world.follow ws.cwd q = .ok loc ∧
      ws.world.canonical ws.cwd q = .ok loc.toPath := by
  obtain ⟨q, chosen, found⟩ := chosen?_eq_some (search_ok h)
  obtain ⟨content, regular⟩ := World.regularFile?_regular found
  have leads := World.follow_of_regularFile? found
  exact ⟨q, chosen, leads, World.canonical_of_follow named leads regular (by simp)⟩

/-- **A specifier is located as the canonical path of the first file among its candidates**, and it
cannot be resolved exactly if there is none. This holds if nothing stands in the way of the search
and the manifest, where it is consulted, is not nested too deeply. -/
theorem locate_first_candidate (named : ws.world.Named) {specifier base : String}
    (followed : l.isIgnored specifier = false)
    (clear : l.Unobstructed ws (candidate specifier (Path.ofString base)))
    (shallow : l.Consults ws (candidate specifier (Path.ofString base)) →
      ¬ NestedTooDeep ws (candidate specifier (Path.ofString base))) :
    match l.chosen? ws (candidate specifier (Path.ofString base)) with
    | some q => ∃ p, ws.world.canonical ws.cwd q = .ok p ∧
        (l.locate ws specifier base).outcome = .ok p
    | none =>
      (l.locate ws specifier base).outcome = .error (.unresolvable specifier (some base)) := by
  obtain ⟨found, ends⟩ := search_unobstructed clear shallow
  rw [locate, find?, followed, if_neg Bool.false_ne_true]
  dsimp only
  rw [ends]
  cases found with
  | none =>
    rw [chosen?_eq_none (search_ok ends)]
    rfl
  | some loc =>
    obtain ⟨q, chosen, -, canonical⟩ := canonical_of_chosen named ends
    rw [chosen]
    exact ⟨_, canonical, rfl⟩

namespace LinkedPackage

/-- A manifest that names a main entry. -/
def manifest : List Char := "\x7b\"main\":\"m\"\x7d".toList

/-- A directory whose manifest names another one as its main entry, an index in each, and a link to
the directory. -/
def workspace : Workspace where
  world := ⟨[(["a"], .link "p"), (["p"], .directory), (["index.ts", "p"], .file []),
    (["package.json", "p"], .file (Text.Utf8.encode manifest)), (["m", "p"], .directory),
    (["index.ts", "m", "p"], .file [])]⟩
  cwd := []
  grammars _ _ := ⟨⟨"program", true, false, false, 0, 0, [], []⟩, false⟩

/-- A locator with one extension. -/
def locator : Locator := ⟨[".ts"], []⟩

theorem named : workspace.world.Named := by
  refine .of_entries ?_
  simp [workspace, World.IsName, Path.isNulPart]

/-- Where the manifest and the candidates lead. -/
theorem follow_candidates :
    [["a", "package.json"], ["a"], ["a.ts"], ["a", "m"], ["a", "m.ts"], ["a", "m", "index"],
      ["a", "m", "index.ts"]].map
      (fun parts => workspace.world.follow workspace.cwd ⟨.root, parts⟩) =
    [.ok ["package.json", "p"], .ok ["p"], .error .notFound, .ok ["m", "p"], .error .notFound,
      .error .notFound, .ok ["index.ts", "m", "p"]] := by
  have target : Text.pieces '/' "p" = ["p"] := by cbv
  simp [workspace, World.follow, World.walk, World.lookup, List.lookup, World.linkStart, target,
    World.maxNameBytes, World.start, World.maxLinks, World.maxPathBytes, Path.hasNul,
    Path.isNulPart, Path.toString, Except.map, Anchor.toString]
  and_intros <;> rfl

theorem lookups :
    workspace.world.lookup ["package.json", "p"] = some (.file (Text.Utf8.encode manifest)) ∧
      workspace.world.lookup ["p"] = some .directory ∧
      workspace.world.lookup ["m", "p"] = some .directory ∧
      workspace.world.lookup ["index.ts", "m", "p"] = some (.file []) := by
  simp [workspace, World.lookup, List.lookup]

theorem parse_manifest :
    Json.parse manifest = .ok (.object [(some "main", .string (some "m"))]) := by
  cbv

end LinkedPackage

open LinkedPackage in
/-- The main entry comes before the index, its own index stands for it, and the link is left out. -/
theorem locate_first_candidate_main :
    (locator.locate workspace "./a" "/").outcome = .ok ⟨.root, ["p", "m", "index.ts"]⟩ := by
  have text : candidate "./a" (Path.ofString "/") = ⟨.root, ["a"]⟩ := by cbv
  have follows := follow_candidates
  simp only [List.map_cons, List.map_nil, List.cons.injEq] at follows
  obtain ⟨described, package, packageTs, main, mainTs, index, indexTs, -⟩ := follows
  obtain ⟨content, directory, inner, found⟩ := lookups
  have read : workspace.readText ⟨.root, ["a", "package.json"]⟩ = .ok manifest := by
    rw [Workspace.readText, World.read, described]
    dsimp only
    rw [content]
    cbv
  have entry : main? workspace ⟨.root, ["a"]⟩ = some "m" := by
    simp [main?, fileAt?, World.regularFile?, Path.child, manifestName, described, content, read,
      parse_manifest, Json.member?, Json.text?]
  have candidates : locator.candidates workspace ⟨.root, ["a"]⟩ =
      [["a"], ["a.ts"], ["a", "m"], ["a", "m.ts"], ["a", "m", "index"], ["a", "m", "index.ts"],
        ["a", "index"], ["a", "index.ts"]].map fun parts => .ok ⟨.root, parts⟩ := by
    have below : (⟨.root, ["a"]⟩ : Path) ++ Path.ofString "m" = ⟨.root, ["a", "m"]⟩ := by cbv
    have leads : leadsToDirectory workspace ⟨.root, ["a"]⟩ = true ∧
        leadsToDirectory workspace ⟨.root, ["a", "m"]⟩ = true := by
      simp [leadsToDirectory, isDirectory, World.isDirectory, package, directory, main, inner]
    rw [Locator.candidates, entryCandidates, indexCandidates, entry, leads.1]
    dsimp only
    rw [below, indexCandidates, leads.2]
    cbv
  have clear : locator.Unobstructed workspace ⟨.root, ["a"]⟩ := by
    constructor
    · rw [candidates]
      simp [Clear, Legal, fileAt?, World.regularFile?, package, packageTs, main, mainTs, index,
        indexTs, found]
    · intro _
      simp [Legal, Path.child, manifestName, described]
  have shallow : ¬ NestedTooDeep workspace ⟨.root, ["a"]⟩ := by
    rintro ⟨text, innermost, read', deep⟩
    obtain rfl := Except.ok.inj (read.symm.trans read')
    rw [parse_manifest] at deep
    cases deep
  have chosen : locator.chosen? workspace ⟨.root, ["a"]⟩ =
      some ⟨.root, ["a", "m", "index.ts"]⟩ := by
    rw [chosen?, candidates]
    simp [ifFile?, fileAt?, World.regularFile?, package, directory, packageTs, main, inner, mainTs,
      index, indexTs, found]
  have followed : locator.isIgnored "./a" = false := rfl
  have located := locate_first_candidate named followed (by rwa [text] : locator.Unobstructed _
    (candidate "./a" (Path.ofString "/"))) (by rw [text]; exact fun _ => shallow)
  rw [text, chosen] at located
  obtain ⟨p, canonical, located⟩ := located
  rw [World.canonical_of_follow named indexTs found (by simp)] at canonical
  cases canonical
  exact located

/-! ## Manifests that are nested too deeply -/

/-- A search that comes to a manifest that is nested too deeply fails with it. -/
theorem search_nested (clear : l.Unobstructed ws c) (consults : l.Consults ws c) {text : List Char}
    {innermost : Json.Container} (read : ws.readText (c.child manifestName) = .ok text)
    (deep : Json.parse text = .error (.tooDeep innermost)) :
    (l.search ws c).outcome = .error (.nestedTooDeep innermost) := by
  have probes := clear.probes
  rw [candidates, List.append_assoc, clear_append] at probes
  obtain ⟨found, first⟩ := firstFile_clear probes.1
  obtain rfl : none = found := consults.1.symm.trans (firstFile_first first)
  have file : ∃ loc, fileAt? ws (.ok (c.child manifestName)) = some loc := by
    rw [Workspace.readText, World.read] at read
    rw [fileAt?, World.regularFile?]
    split at read
    · cases read
    · next content found =>
      split at found
      · cases found
      · next loc leads =>
        rw [leads]
        split at found
        · next regular =>
          dsimp only
          rw [regular]
          exact ⟨loc, rfl⟩
        · cases found
        · cases found
  obtain ⟨loc, file⟩ := file
  have fails : (mainEntry ws c).outcome = .error (.nestedTooDeep innermost) := by
    rw [mainEntry, regularFile?_of_legal (clear.manifest consults), file]
    dsimp only
    rw [readManifest, read]
    dsimp only
    rw [deep]
    rfl
  rw [search, asFile, first]
  dsimp only
  rw [asDirectory, isDirectory_of_legal (legal_of_clear probes.1), consults.2]
  dsimp only
  rw [fails]

/-- Brackets that open more arrays than may stand within one another. -/
theorem value_brackets (levels : Nat) {fuel : Nat} (enough : 2 * levels + 1 ≤ fuel) :
    Json.value fuel levels (List.replicate (levels + 1) '[') = .error (.tooDeep .array) := by
  induction levels generalizing fuel with
  | zero =>
    obtain ⟨fuel, rfl⟩ : ∃ f, fuel = f + 1 := ⟨fuel - 1, by omega⟩
    rfl
  | succ levels ih =>
    obtain ⟨fuel, rfl⟩ : ∃ f, fuel = f + 2 := ⟨fuel - 2, by omega⟩
    have step : Json.value (fuel + 2) (levels + 1) (List.replicate (levels + 2) '[') =
        (Json.elements (fuel + 1) levels (List.replicate (levels + 1) '[')).map
          fun parsed => (.array parsed.1, parsed.2) := rfl
    have inner : Json.elements (fuel + 1) levels (List.replicate (levels + 1) '[') =
        .error (.tooDeep .array) := by
      rw [Json.elements, ih (by omega)]
    rw [step, inner]
    rfl

/-- Brackets are read as they stand. -/
theorem decode_brackets (n : Nat) :
    Text.Utf8.decode (List.replicate n 0x5B) = .ok (List.replicate n '[') := by
  have pieces : Text.Utf8.pieces (List.replicate n 0x5B) = List.replicate n (.char '[') := by
    induction n with
    | zero => rw [List.replicate_zero, Text.Utf8.pieces]; rfl
    | succ n ih =>
      have next : Text.Utf8.nextPiece 0x5B (List.replicate n 0x5B) =
          (.char '[', List.replicate n 0x5B) := rfl
      rw [List.replicate_succ, Text.Utf8.pieces, next, ih]
      rfl
  have decoded (n position : Nat) :
      Text.Utf8.decodePieces position (List.replicate n (.char '[')) =
        .ok (List.replicate n '[') := by
    induction n generalizing position with
    | zero => rfl
    | succ n ih => rw [List.replicate_succ, Text.Utf8.decodePieces, ih, List.replicate_succ]
  rw [Text.Utf8.decode, pieces, decoded]

theorem unifyNewlines_brackets (n : Nat) :
    Text.unifyNewlines (List.replicate n '[') = List.replicate n '[' := by
  induction n with
  | zero => rfl
  | succ n ih =>
    rw [List.replicate_succ, Text.unifyNewlines, ih]
    · rfl
    · intro _ cr
      exact absurd cr (by decide)

namespace DeepManifest

/-- One array more than may stand within one another. -/
def brackets : List UInt8 := List.replicate (Json.maxLevels + 1) 0x5B

/-- A directory with an index, and with a manifest that is nested too deeply. -/
def workspace : Workspace where
  world := ⟨[(["p"], .directory), (["index.js", "p"], .file []),
    (["package.json", "p"], .file brackets)]⟩
  cwd := []
  grammars _ _ := ⟨⟨"program", true, false, false, 0, 0, [], []⟩, false⟩

/-- A locator with one extension. -/
def locator : Locator := ⟨[".js"], []⟩

theorem named : workspace.world.Named := by
  refine .of_entries ?_
  simp [workspace, World.IsName, Path.isNulPart]

/-- Where the manifest and the candidates lead. -/
theorem follow_candidates :
    [["p", "package.json"], ["p"], ["p.js"], ["p", "index"], ["p", "index.js"]].map
      (fun parts => workspace.world.follow workspace.cwd ⟨.root, parts⟩) =
    [.ok ["package.json", "p"], .ok ["p"], .error .notFound, .error .notFound,
      .ok ["index.js", "p"]] := by
  simp [workspace, World.follow, World.walk, World.lookup, List.lookup, World.maxNameBytes,
    World.start, World.maxLinks, World.maxPathBytes, Path.hasNul, Path.isNulPart, Path.toString,
    Except.map, Anchor.toString]
  and_intros <;> rfl

theorem lookups :
    workspace.world.lookup ["package.json", "p"] = some (.file brackets) ∧
      workspace.world.lookup ["p"] = some .directory ∧
      workspace.world.lookup ["index.js", "p"] = some (.file []) := by
  simp [workspace, World.lookup, List.lookup]

theorem parse_brackets :
    Json.parse (List.replicate (Json.maxLevels + 1) '[') = .error (.tooDeep .array) := by
  have skipped : Json.skip (List.replicate (Json.maxLevels + 1) '[') =
      List.replicate (Json.maxLevels + 1) '[' := rfl
  rw [Json.parse, skipped, value_brackets]
  rw [List.length_replicate]
  omega

end DeepManifest

open DeepManifest in
/-- A manifest that is nested too deeply is not left out: though the index is there and all paths
that are looked up are legal, the search fails. -/
theorem locate_fails_nested :
    workspace.world.Named ∧ locator.isIgnored "./p" = false ∧
      candidate "./p" (Path.ofString "/") = ⟨.root, ["p"]⟩ ∧
      (∀ probe ∈ locator.candidates workspace ⟨.root, ["p"]⟩, Legal workspace probe) ∧
      locator.Unobstructed workspace ⟨.root, ["p"]⟩ ∧
      locator.chosen? workspace ⟨.root, ["p"]⟩ = some ⟨.root, ["p", "index.js"]⟩ ∧
      (locator.locate workspace "./p" "/").outcome = .error (.nestedTooDeep .array) := by
  have text : candidate "./p" (Path.ofString "/") = ⟨.root, ["p"]⟩ := by cbv
  have follows := follow_candidates
  simp only [List.map_cons, List.map_nil, List.cons.injEq] at follows
  obtain ⟨described, package, packageJs, index, indexJs, -⟩ := follows
  obtain ⟨content, directory, found⟩ := lookups
  have read : workspace.readText ⟨.root, ["p", "package.json"]⟩ =
      .ok (List.replicate (Json.maxLevels + 1) '[') := by
    rw [Workspace.readText, World.read, described]
    dsimp only
    rw [content]
    dsimp only
    rw [brackets, decode_brackets]
    dsimp only
    rw [unifyNewlines_brackets]
  have leads : leadsToDirectory workspace ⟨.root, ["p"]⟩ = true := by
    simp [leadsToDirectory, isDirectory, World.isDirectory, package, directory]
  have entry : main? workspace ⟨.root, ["p"]⟩ = none := by
    rw [main?]
    split
    · show (match workspace.readText ⟨.root, ["p", "package.json"]⟩ with
        | .error _ => none
        | .ok text => _) = none
      rw [read]
      dsimp only
      rw [parse_brackets]
    · rfl
  have candidates : locator.candidates workspace ⟨.root, ["p"]⟩ =
      [["p"], ["p.js"], ["p", "index"], ["p", "index.js"]].map fun parts => .ok ⟨.root, parts⟩ := by
    rw [Locator.candidates, entryCandidates, indexCandidates, entry, leads]
    cbv
  have legal : ∀ probe ∈ locator.candidates workspace ⟨.root, ["p"]⟩, Legal workspace probe := by
    rw [candidates]
    simp [Legal, package, packageJs, index, indexJs]
  have clear : locator.Unobstructed workspace ⟨.root, ["p"]⟩ := by
    constructor
    · rw [candidates]
      simp [Clear, Legal, package, packageJs, index, indexJs]
    · intro _
      simp [Legal, Path.child, manifestName, described]
  have consults : locator.Consults workspace ⟨.root, ["p"]⟩ := by
    have probes : locator.probes ⟨.root, ["p"]⟩ = [.ok ⟨.root, ["p"]⟩, .ok ⟨.root, ["p.js"]⟩] := by
      cbv
    refine ⟨?_, leads⟩
    rw [probes]
    simp [fileAt?, World.regularFile?, package, directory, packageJs]
  refine ⟨named, rfl, text, legal, clear, ?_, ?_⟩
  · rw [chosen?, candidates]
    simp [ifFile?, fileAt?, World.regularFile?, package, directory, packageJs, index, indexJs,
      found]
  · rw [locate, find?, if_neg (by decide), text]
    dsimp only
    rw [search_nested clear consults read parse_brackets]
    rfl

end ExportTrail.Locator
