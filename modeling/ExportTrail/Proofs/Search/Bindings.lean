import ExportTrail.Proofs.Export.Bindings
import ExportTrail.Proofs.Search.Cap
import ExportTrail.Proofs.Search.Visit
import ExportTrail.Session

/-!
# Imports and sourced exports

An import statement and an export statement with a source that write the same bindings lead to the
same searches (`import_export_agree`). A search through the export has one more frame, that of the
module with the export statement, so that it takes a cap that is larger by one to compare them:
`asker_alike` is the induction that shifts the place on the chain and the cap together.
-/

namespace ExportTrail.Search

open Recursive

/-- Entering a module depends on the source of an edge and on its options. -/
theorem enter_congr (r : Resolver) (ws : Workspace) {edge edge' : Cursor}
    (source : source? edge' = source? edge) (options : edge'.options = edge.options)
    (p : Progress) : enter r ws edge' p = enter r ws edge p := by
  unfold enter
  rw [source, options]

/-! ## A shift on the chain -/

/-- Whether requests are answered alike after searches that have done the same. -/
def AskAlike (ask ask' : Ask) : Prop :=
  ∀ edge name p q, Alike p q → EndsAlike (ask edge name p) (ask' edge name q)

theorem forAll_alike {ask ask' : Ask} (asks : AskAlike ask ask') (items : List Export.Item)
    (result : Option Cursor) {p q : Progress} (h : Alike p q) :
    EndsAlike (forAll (perform ask) items result p) (forAll (perform ask') items result q) := by
  induction items generalizing result p q with
  | nil => exact ⟨rfl, h⟩
  | cons item rest ih =>
    cases item with
    | settle settled => exact ih settled h
    | ask edge name clears =>
      obtain ⟨outcome, p₁, q₁, answer, answer', alike⟩ := (asks edge name p q h).exists_eq
      rw [forAll, forAll, perform, perform, answer, answer']
      cases outcome with
      | error failure => exact ⟨rfl, alike⟩
      | ok found => exact ih _ alike

variable {l : Locator} {ws : Workspace} {cap cap' : Int}

theorem visit_alike {ask ask' : Ask} (asks : AskAlike ask ask') :
    AskAlike (visit ⟨l, cap⟩ ws ask) (visit ⟨l, cap'⟩ ws ask') := by
  intro edge name p q h
  obtain ⟨outcome, p₁, q₁, enters, enters', alike⟩ := (enter_alike l ws cap cap' edge h).exists_eq
  rw [visit, visit, enters, enters']
  rcases outcome with failure | _ | program
  · exact ⟨rfl, alike⟩
  · exact ⟨rfl, alike⟩
  · dsimp only
    rw [module_eq, module_eq]
    exact forAll_alike asks _ none alike

theorem refuse_alike (r r' : Resolver) : AskAlike (refuse r) (refuse r') :=
  fun _ _ _ _ h => ⟨rfl, (h.record_left _).record_right _⟩

/-- A place on a chain, and the next place under a cap that is larger by one. -/
theorem asker_alike (l : Locator) (ws : Workspace) {cap : Int} (pos : 1 ≤ cap) (depth : Nat) :
    AskAlike (asker ⟨l, cap⟩ ws depth) (asker ⟨l, cap + 1⟩ ws (depth + 1)) := by
  refine asker_induction (r := ⟨l, cap⟩)
    (P := fun depth ask => AskAlike ask (asker ⟨l, cap + 1⟩ ws depth)) ?_ ?_ depth
  · intro depth full
    have full : cap ≤ (depth : Int) := full
    rw [asker, if_neg (by dsimp only; omega)]
    exact refuse_alike _ _
  · intro depth ask le asks
    have le : (depth : Int) ≤ max 1 cap := le
    rw [asker, if_pos (by dsimp only; omega), request_eq]
    exact visit_alike asks

/-! ## The two statements -/

section

variable {importing program statement : Cursor} {source : String} {bs : List Binding}

/-- A name that is not bound to a value is not imported. -/
theorem importedName?_eq_none {name : String}
    (unbound : ∀ b ∈ bs, b.typeOnly = false → b.bound.text ≠ name) :
    Binding.importedName? name bs = none := by
  rw [Binding.importedName?, Option.map_eq_none_iff, List.find?_eq_none]
  intro b mem hit
  obtain ⟨value, bound⟩ := Binding.binds_iff.1 hit
  exact unbound b mem value bound

theorem findExported_reexports (exports : Reexports program statement source bs)
    (distinct : Binding.Distinct bs) (r : Resolver) (ws : Workspace) (name : String)
    (p : Progress) :
    r.findExported ws program name p =
      match Binding.importedName? name bs with
      | none => (.ok none, p)
      | some imported => asker r ws 1 statement imported p := by
  rw [findExported_eq, Recursive.findExported, module_eq, exports.agenda_eq distinct]
  cases Binding.importedName? name bs with
  | none => rfl
  | some imported =>
    rw [Option.toList_some, List.map_singleton, forAll_singleton, perform]
    dsimp only
    rcases asker r ws 1 statement imported p with ⟨failure | found, q⟩
    · rfl
    · rfl

theorem resolveBinding_imports (imports : Imports importing source bs) (r : Resolver)
    (ws : Workspace) (name : String) (p : Progress) :
    r.resolveBinding ws importing name p =
      match Binding.importedName? name bs with
      | none => (.ok none, p)
      | some imported => visit r ws (asker r ws 1) importing imported p := by
  rw [Resolver.resolveBinding, imports.exportedName?_eq]
  cases Binding.importedName? name bs with
  | none => rfl
  | some imported =>
    dsimp only
    rw [resolve_eq, Recursive.resolve, request_eq]

/-- The search for a name that an import statement does not bind leaves the session as it is. -/
theorem search_unbound {localName : String}
    (unbound : Import.exportedName? importing localName = none) (s : Session)
    (given : Option Resolver) (visited : List Path) :
    s.search given (.binding importing localName) visited =
      ((.ok none, .start visited s.serial), s) := by
  cases given with
  | some r =>
    rw [Session.search]
    dsimp only
    rw [Session.Query.run, Resolver.resolveBinding, unbound]
    rfl
  | none =>
    have idle : Session.Query.needsResolver (.binding importing localName) = false := by
      rw [Session.Query.needsResolver, unbound]
      rfl
    rw [Session.search]
    dsimp only
    rw [idle]
    rfl

/-- **Import bindings and sourced exports agree.** Let an import statement and the only statement of
a program write the same bindings of the same source, with the same options, where the words that
are bound are identifiers and no two of them the same. Then the search for what the import binds to
a name and the search of the program for that name, which may have one more module on its chains,
end alike: with the same node, nothing or failure, and after visiting and loading the same modules.
A name that is not bound to a value leads both to nothing at once: whatever the files are, nothing
is visited, and no default resolver is made for the import. -/
theorem import_export_agree (imports : Imports importing source bs)
    (exports : Reexports program statement source bs)
    (options : importing.options = program.options) (distinct : Binding.Distinct bs) :
    (∀ l cap ws p name, 1 ≤ cap →
      EndsAlike ((⟨l, cap⟩ : Resolver).resolveBinding ws importing name p)
        ((⟨l, cap + 1⟩ : Resolver).findExported ws program name p)) ∧
      ∀ name, (∀ b ∈ bs, b.typeOnly = false → b.bound.text ≠ name) →
        (∀ (r : Resolver) ws p, r.resolveBinding ws importing name p = (.ok none, p) ∧
          r.findExported ws program name p = (.ok none, p)) ∧
        ∀ (s : Session) given visited, s.search given (.binding importing name) visited =
          ((.ok none, .start visited s.serial), s) := by
  constructor
  · intro l cap ws p name pos
    rw [resolveBinding_imports imports, findExported_reexports exports distinct]
    cases Binding.importedName? name bs with
    | none => exact ⟨rfl, .refl p⟩
    | some imported =>
      -- the export statement is followed as the import statement is
      have edges : visit ⟨l, cap⟩ ws (asker ⟨l, cap⟩ ws 1) statement imported p =
          visit ⟨l, cap⟩ ws (asker ⟨l, cap⟩ ws 1) importing imported p := by
        rw [visit, visit, enter_congr _ ws (exports.source.trans imports.source.symm)
          (exports.options_eq.trans options.symm)]
      have place : asker ⟨l, cap + 1⟩ ws 1 = visit ⟨l, cap + 1⟩ ws (asker ⟨l, cap + 1⟩ ws 2) := by
        rw [asker, if_pos (by dsimp only; omega), request_eq]
      dsimp only
      rw [← edges, place]
      exact visit_alike (asker_alike l ws pos 1) statement imported p p (.refl p)
  · intro name unbound
    have none := importedName?_eq_none unbound
    refine ⟨fun r ws p => ⟨?_, ?_⟩, fun s given visited => ?_⟩
    · rw [resolveBinding_imports imports, none]
    · rw [findExported_reexports exports distinct, none]
    · exact search_unbound ((imports.exportedName?_eq name).trans none) s given visited

end

/-! ## An example -/

namespace BoundNames

open TwoModules (leaf branch options first)

/-- The named imports of `import d,{x as y,type t}from'./a';`. -/
def namedTree : Tree :=
  branch "named_imports" 9 24
    [leaf "\x7b" false 9 10,
      branch "import_specifier" 10 16
        [leaf "identifier" true 10 11, leaf "as" false 12 14, leaf "identifier" true 15 16]
        [("name", 0), ("alias", 2)],
      leaf "," false 16 17,
      branch "import_specifier" 17 23 [leaf "type" false 17 21, leaf "identifier" true 22 23]
        [("name", 1)],
      leaf "\x7d" false 23 24] []

def importClauseTree : Tree :=
  branch "import_clause" 7 24 [leaf "identifier" true 7 8, leaf "," false 8 9, namedTree] []

def importTree : Tree :=
  branch "import_statement" 0 34
    [leaf "import" false 0 6, importClauseTree, leaf "from" false 24 28,
      branch "string" 28 33
        [leaf "'" false 28 29, leaf "string_fragment" true 29 32, leaf "'" false 32 33] [],
      leaf ";" false 33 34]
    [("source", 3)]

/-- The clause of `export{default as d,x as y,type t}from'./a';`. -/
def exportClauseTree : Tree :=
  branch "export_clause" 6 34
    [leaf "\x7b" false 6 7,
      branch "export_specifier" 7 19
        [leaf "default" false 7 14, leaf "as" false 15 17, leaf "identifier" true 18 19]
        [("name", 0), ("alias", 2)],
      leaf "," false 19 20,
      branch "export_specifier" 20 26
        [leaf "identifier" true 20 21, leaf "as" false 22 24, leaf "identifier" true 25 26]
        [("name", 0), ("alias", 2)],
      leaf "," false 26 27,
      branch "export_specifier" 27 33 [leaf "type" false 27 31, leaf "identifier" true 32 33]
        [("name", 1)],
      leaf "\x7d" false 33 34] []

def exportTree : Tree :=
  branch "export_statement" 0 44
    [leaf "export" false 0 6, exportClauseTree, leaf "from" false 34 38,
      branch "string" 38 43
        [leaf "'" false 38 39, leaf "string_fragment" true 39 42, leaf "'" false 42 43] [],
      leaf ";" false 43 44]
    [("source", 3)]

def importText : List UInt8 :=
  Text.Utf8.encode "import d,\x7bx as y,type t\x7dfrom'./a';".toList

def exportText : List UInt8 :=
  Text.Utf8.encode "export\x7bdefault as d,x as y,type t\x7dfrom'./a';".toList

/-- A program with one statement. -/
def program (text : List UInt8) (statement : Tree) : Cursor :=
  .top (Node.root 0 text (branch "program" 0 text.length [statement] []))
    (some (options ⟨.root, ["c.js"]⟩))

/-- The child of a cursor with a given tree. -/
def child (c : Cursor) (i : Nat) (t : Tree) : Cursor := .via c (c.node.childAt i t)

def importing : Cursor := child (program importText importTree) 0 importTree

def exporting : Cursor := child (program exportText exportTree) 0 exportTree

/-- What both statements write. -/
def bindings : List Binding :=
  [.default ⟨"identifier", "d"⟩, ⟨⟨"identifier", "x"⟩, some ⟨"identifier", "y"⟩, false⟩,
    ⟨⟨"identifier", "t"⟩, none, true⟩]

theorem distinct : Binding.Distinct bindings := by
  constructor
  · decide
  · decide

/-- The part of the import clause in front of the braces. -/
def front : Cursor := child (child importing 1 importClauseTree) 0 (leaf "identifier" true 7 8)

theorem default_front : Binding.OfPart front [.default ⟨"identifier", "d"⟩] := by
  have word : front.word = ⟨"identifier", "d"⟩ := by cbv
  rw [← word]
  exact .default rfl

/-- The part between the braces. -/
def braces : Cursor := child (child importing 1 importClauseTree) 2 namedTree

theorem named_braces : Binding.OfPart braces bindings.tail := by
  refine .named rfl (.cons ⟨?_, ?_, ?_⟩ (.cons ⟨?_, ?_, ?_⟩ .nil)) <;> cbv

theorem imports : Imports importing "./a" bindings :=
  ⟨by cbv, by cbv, [[.default ⟨"identifier", "d"⟩], bindings.tail], rfl,
    .cons default_front (.cons named_braces .nil)⟩

theorem exports : Reexports (program exportText exportTree) exporting "./a" bindings := by
  refine ⟨rfl, rfl, rfl, by cbv, by cbv,
    .cons ⟨?_, ?_, ?_⟩ (.cons ⟨?_, ?_, ?_⟩ (.cons ⟨?_, ?_, ?_⟩ .nil))⟩ <;> cbv

theorem options_importing : importing.options = options ⟨.root, ["c.js"]⟩ := by
  cbv

theorem leads_importing : Leads TwoModules.resolver TwoModules.workspace importing first :=
  ⟨"./a", by cbv, by cbv⟩

/-- The name that `y` is imported as is found, in the second of the two modules. -/
theorem resolveBinding_importing :
    ∃ found p', TwoModules.resolver.resolveBinding TwoModules.workspace importing "y"
      (.start [] 1) = (.ok (some found), p') := by
  obtain ⟨p, visited, -, eq⟩ := visit_of_leads (p := .start [] 1)
    (asker TwoModules.resolver TwoModules.workspace 1) "x" leads_importing List.not_mem_nil
    (options_importing ▸ TwoModules.load_first 1 _)
  have fresh : TwoModules.second ∉ p.visited := by
    rw [visited]
    show TwoModules.second ∉ [first]
    decide
  obtain ⟨found, p', ends⟩ := TwoModules.module_first 1 fresh
  have imported : Binding.importedName? "y" bindings = some "x" := by decide
  refine ⟨found, p', ?_⟩
  rw [resolveBinding_imports imports, imported]
  dsimp only
  rw [eq, ends]

end BoundNames

open BoundNames in
/-- What `y` is bound to is found either way, under a cap of two and of three, and `t`, which is for
types, is not looked for. -/
theorem import_export_agree_bound_names :
    (∃ found,
      (TwoModules.resolver.resolveBinding TwoModules.workspace importing "y" (.start [] 1)).1 =
        .ok (some found) ∧
      ((⟨Locator.default, 2 + 1⟩ : Resolver).findExported TwoModules.workspace
        (program exportText exportTree) "y" (.start [] 1)).1 = .ok (some found)) ∧
      (Session.start TwoModules.workspace).search none (.binding importing "t") [] =
        ((.ok none, .start [] 0), Session.start TwoModules.workspace) := by
  obtain ⟨agree, unbound⟩ := import_export_agree imports exports options_importing distinct
  obtain ⟨found, p, ends⟩ := resolveBinding_importing
  refine ⟨⟨found, congrArg Prod.fst ends, ?_⟩, (unbound "t" (by decide)).2 _ none []⟩
  rw [(agree Locator.default 2 TwoModules.workspace (.start [] 1) "y" (by decide)).outcome]
  exact congrArg Prod.fst ends

end ExportTrail.Search
