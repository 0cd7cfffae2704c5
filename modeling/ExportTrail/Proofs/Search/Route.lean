import ExportTrail.Proofs.Parse.Serial
import ExportTrail.Proofs.Search.Cap
import ExportTrail.Proofs.Search.Met
import ExportTrail.Proofs.World.Canonical

/-!
# The route to a module

A module is read with the options of the file that led to it, and these were handed on from file to
file. The route leaves no trace: the options that are handed on are those of the start, but for the
name of the file, so that each module comes to what it comes to if it is opened by itself with the
root, the language and the other members of the start (`load_regardless_of_route`). The grammar is
that of the language, or else that of the module's own suffix (`GrammarChoice.ofModule`).
-/

namespace ExportTrail

/-! ## Opening a module with given options -/

namespace Options

/-- The members that say the same as options do, but for the file and the root. -/
def members (o : Options) : List (String × Value) :=
  (o.language.map fun name => ("language", Value.text name)).toList ++ o.extra

/-- Options come back from their members. -/
theorem ofMembers_members {o : Options} (unknown : ∀ member ∈ o.extra, member.1 ∉ knownMembers) :
    ofMembers o.members = .ok ⟨none, none, o.language, o.extra⟩ := by
  have none_extra {name : String} (known : name ∈ knownMembers) : o.extra.lookup name = none := by
    rw [List.lookup_eq_none_iff]
    intro member mem
    rw [bne_iff_ne]
    rintro rfl
    exact unknown member mem known
  have file : o.members.lookup "filename" = none := by
    rw [members, List.lookup_append, none_extra (by decide)]
    cases o.language <;> rfl
  have root : o.members.lookup "root" = none := by
    rw [members, List.lookup_append, none_extra (by decide)]
    cases o.language <;> rfl
  have language : o.members.lookup "language" = o.language.map Value.text := by
    rw [members, List.lookup_append, none_extra (by decide)]
    cases o.language <;> rfl
  have extra : o.members.filter (fun m => !knownMembers.contains m.1) = o.extra := by
    have kept : o.extra.filter (fun m => !knownMembers.contains m.1) = o.extra := by
      rw [List.filter_eq_self]
      intro member mem
      simpa using unknown member mem
    rw [members, List.filter_append, kept]
    cases o.language <;> rfl
  unfold ofMembers pathMember textMember
  rw [file, root, language, extra]
  cases o.language <;> rfl

/-- Retargeting options again and again comes to retargeting them once. -/
theorem forFile_foldl (o : Options) (others : List Path) (m : Path) :
    (others.foldl forFile o).forFile m = o.forFile m := by
  induction others generalizing o with
  | nil => rfl
  | cons other others ih => rw [List.foldl_cons, ih, forFile_forFile]

end Options

namespace GrammarChoice

/-- The grammar of a module that is read on behalf of others, and the one to try if it refuses the
module: that of the language if there is one, and else that of the module's suffix. -/
def ofModule (language : Option String) (module : Path) : Except Failure GrammarChoice :=
  match language with
  | some name =>
    match Dialect.ofName? name with
    | none => .error (.unknownDialect name)
    | some dialect => .ok ⟨dialect, none⟩
  | none =>
    let dialect := (Dialect.ofSuffix? (Text.lower module.suffix)).getD .javascript
    .ok ⟨dialect, if dialect = .javascript then some .tsx else none⟩

/-- The file that options came from has no influence. -/
theorem ofOptions_forFile (o : Options) (module : Path) :
    ofOptions (o.forFile module) = ofModule o.language module := by
  have same : (o.forFile module).language = o.language := rfl
  cases language : o.language with
  | some name =>
    have asked : languageOf (o.forFile module) = name := by rw [languageOf, same, language]
    rw [ofOptions, asked, same, language]
    cases found : Dialect.ofName? name with
    | none => simp only [ofModule, found]
    | some dialect => simp [ofModule, found]
  | none =>
    have ofName?_name (dialect : Dialect) : Dialect.ofName? dialect.name = some dialect := by
      cases dialect <;> decide
    have asked : languageOf (o.forFile module) =
        ((Dialect.ofSuffix? (Text.lower module.suffix)).getD .javascript).name := by
      simp only [languageOf, Options.forFile, language, Option.bind_some, Dialect.ofPath?,
        Dialect.default]
    rw [ofOptions, asked, ofName?_name, same, language]
    simp [ofModule, Dialect.default, Dialect.fallback]

end GrammarChoice

/-- The path of a regular file is canonical. -/
theorem World.IsRegular.canonical {w : World} (named : w.Named) (cwd : Location) {l : Location}
    (h : w.IsRegular l) : w.canonical cwd l.toPath = .ok l.toPath := by
  obtain ⟨content, regular⟩ := h
  exact canonical_toPath named (by simp) regular

namespace Workspace

variable (ws : Workspace)

/-- What reading a module comes to that is to have given options. -/
def reading (serial : Nat) (module : Path) (o : Options) : Except Failure Cursor :=
  match ws.readText module with
  | .error e => .error e
  | .ok text =>
    match GrammarChoice.ofModule o.language module with
    | .error e => .error e
    | .ok choice => (parseWith ws.grammars choice o serial (Text.Utf8.encode text)).outcome

theorem outcome_load (serial : Nat) (module : Path) (o : Options) :
    (ws.load serial module o).outcome = ws.reading serial module (o.forFile module) := by
  rw [load, loadAs, reading]
  cases ws.readText module with
  | error e => rfl
  | ok text =>
    dsimp only
    rw [chooseGrammar, GrammarChoice.ofOptions_forFile]
    have language : (o.forFile module).language = o.language := rfl
    rw [language]
    cases GrammarChoice.ofModule o.language module with
    | error e => rfl
    | ok choice => rfl

variable {ws} in
/-- A canonical path that is opened with the root and the members of some options is loaded with
these options. -/
theorem openModule_eq_load {module : Path}
    (canonical : ws.world.canonical ws.cwd module = .ok module) {o : Options}
    (rooted : o.root.isSome) (unknown : ∀ member ∈ o.extra, member.1 ∉ Options.knownMembers)
    (serial : Nat) : ws.openModule serial module o.root o.members = ws.load serial module o := by
  obtain ⟨root, given⟩ := Option.isSome_iff_exists.1 rooted
  rw [openModule, canonical]
  dsimp only
  rw [Options.ofMembers_members unknown, given]
  apply load_congr
  obtain ⟨filename, _, language, extra⟩ := o
  obtain rfl : _ = some root := given
  rfl

end Workspace

namespace Search

variable {r : Resolver} {ws : Workspace}

/-- Whether a statement has options that were handed on from given ones, or none. -/
def Carries (o : Options) (edge : Cursor) : Prop :=
  edge.options = o ∨ (∃ m, edge.options = o.forFile m) ∨ edge.options = Options.empty

/-- Options that lead to a module are those of the start, but for the name of the file. -/
theorem Carries.leads {o : Options} {edge : Cursor} {m : Path} (h : Carries o edge)
    (leads : Leads r ws edge m) : edge.options.forFile m = o.forFile m ∧ o.root.isSome := by
  obtain ⟨source, -, located⟩ := leads
  have rooted : edge.options.root.isSome := by
    rw [Locator.locateFor] at located
    split at located
    · cases located
    · split at located
      · next rooted => rw [rooted]; rfl
      · cases located
  rcases h with same | ⟨m', same⟩ | none
  · rw [same] at rooted ⊢
    exact ⟨rfl, rooted⟩
  · rw [same] at rooted ⊢
    exact ⟨rfl, rooted⟩
  · rw [none] at rooted
    cases rooted

variable (ws) in
/-- Whether all loads of some acts are those of regular files with the root of given options, and
have the outcome that loading with these options has. -/
def Routed (o : Options) (acts : List Act) : Prop :=
  ∀ m outcome, .load m outcome ∈ acts →
    (∃ loc, m = Location.toPath loc ∧ ws.world.IsRegular loc) ∧ o.root.isSome ∧
      ∃ serial, outcome = (ws.load serial m o).outcome

/-- All that a search can follow carries the options of the start. -/
theorem Met.carries {given : Cursor → Prop} {o : Options} {acts : List Act} {edge : Cursor}
    (first : ∀ s, given s → s.options = o ∨ s.options = Options.empty) (routed : Routed ws o acts)
    (h : Met given acts edge) : Carries o edge := by
  cases h with
  | given begins =>
    rcases first edge begins with same | none
    · exact .inl same
    · exact .inr (.inr none)
  | @loaded m program load mem =>
    obtain ⟨-, -, serial, outcome⟩ := routed m _ load
    rcases Workspace.options_of_statement outcome.symm mem with same | none
    · exact .inr (.inl ⟨m, same⟩)
    · exact .inr (.inr none)

/-- A run loads modules as if with the options of its start. -/
theorem run_routed {given : Cursor → Prop} {o : Options} {first : Config}
    (begins : ∀ s, given s → s.options = o ∨ s.options = Options.empty) (met : AllMet given first)
    (start : Routed ws o first.progress.acts) : Routed ws o (run r ws first).2.acts := by
  refine run_acts_induction start fun c edge name below m reaches routed top leads => ?_
  have asked : Met given c.progress.acts edge :=
    met.reaches reaches (.request edge name) (by rw [top]; exact List.mem_cons_self)
  obtain ⟨same, rooted⟩ := (asked.carries begins routed).leads leads
  intro m' outcome mem
  rcases List.mem_append.1 mem with old | new
  · exact routed m' outcome old
  · rcases List.mem_cons.1 new with mark | load
    · cases mark
    · cases List.mem_singleton.1 load
      exact ⟨leads.regular, rooted, c.progress.serial, by rw [Workspace.load_congr same]⟩

/-- **How a module is read does not depend on the route to it.** For every module that is loaded in
the course of a query, wherever and after however many others, loading it has the outcome that
opening it by itself has, with the root and the language of the options that the query starts with
and the other members of these; the trees are the same but for the numbers of the parses, with their
options. It is also the outcome of reading the module with the grammar of the language or else of
its own suffix, and with the options of the start, retargeted to it; and so it is after retargeting
the options to any other files before. -/
theorem load_regardless_of_route (named : ws.world.Named) (q : Session.Query)
    (unknown : ∀ member ∈ q.origin.options.extra, member.1 ∉ Options.knownMembers)
    (before : List Path) (serial : Nat) {m : Path} {outcome : Except Failure Cursor}
    (mem : .load m outcome ∈ (q.run r ws (.start before serial)).2.acts) :
    let o := q.origin.options
    ∀ k, (ws.openModule k m o.root o.members).outcome = outcome.map (Cursor.renumber k) ∧
      ws.reading k m (o.forFile m) = outcome.map (Cursor.renumber k) ∧
      ∀ others : List Path, (ws.load k m (others.foldl Options.forFile o)).outcome =
        outcome.map (Cursor.renumber k) := by
  intro o k
  have routed : Routed ws o (q.run r ws (.start before serial)).2.acts := by
    cases starts : q.frame? with
    | none =>
      rw [q.run_of_frame?_none r ws _ starts]
      intro m outcome mem
      cases mem
    | some frame =>
      rw [q.run_of_frame? r ws _ starts]
      refine run_routed (fun s => q.options_of_begins) (Session.Query.allMet_frame? _ starts) ?_
      intro m outcome mem
      cases mem
  obtain ⟨⟨loc, rfl, regular⟩, rooted, serial', rfl⟩ := routed m outcome mem
  rw [← Workspace.load_map, ← Workspace.outcome_load]
  refine ⟨?_, rfl, fun others => ?_⟩
  · rw [Workspace.openModule_eq_load (regular.canonical named ws.cwd) rooted unknown]
  · rw [Workspace.load_congr (o.forFile_foldl others loc.toPath)]

namespace TwoModules

theorem named : workspace.world.Named := by
  refine .of_entries ?_
  simp [workspace, World.IsName, Path.isNulPart]

/-- Under a cap of one only the first module is loaded. -/
theorem load_mem_single :
    .load first (.ok (firstProgram 0)) ∈
      ((Session.Query.resolve (wildcard (secondProgram 0)) "x").run ⟨Locator.default, 1⟩ workspace
        (.start [] 0)).2.acts := by
  let single : Resolver := ⟨Locator.default, 1⟩
  have full : Recursive.asker single workspace 1 = Recursive.refuse single := by
    rw [Recursive.asker, if_neg (by decide)]
  obtain ⟨p, -, acts, eq⟩ := Recursive.visit_of_leads (r := single) (p := .start [] 0)
    (Recursive.refuse single) "x" (leads_second 0) List.not_mem_nil (load_first 0 second)
  rw [Session.Query.run, resolve_eq, Recursive.resolve, Recursive.request_eq, full, eq,
    Recursive.module_eq, agenda_first, Recursive.forAll_singleton]
  show _ ∈ p.acts
  rw [acts]
  exact List.mem_append_right _ (List.mem_cons_of_mem _ List.mem_cons_self)

end TwoModules

open TwoModules in
/-- The first of two modules, loaded on behalf of the second one, and opened by itself. -/
theorem load_regardless_of_route_two_modules :
    .load first (.ok (firstProgram 0)) ∈
        ((Session.Query.resolve (wildcard (secondProgram 0)) "x").run ⟨Locator.default, 1⟩ workspace
          (.start [] 0)).2.acts ∧
      (workspace.openModule 7 first (some ⟨.root, []⟩) []).outcome = .ok (firstProgram 7) := by
  refine ⟨load_mem_single, ?_⟩
  have opened := load_regardless_of_route named (.resolve (wildcard (secondProgram 0)) "x")
    (by decide) [] 0 load_mem_single 7
  exact opened.1

end Search

end ExportTrail
