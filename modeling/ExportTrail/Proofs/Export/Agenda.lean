import ExportTrail.Proofs.Export.Gathered

/-!
# What export statements contribute

`Matches` says which nodes a statement gives to a name without the help of other modules, and
`Forwards` which name a statement asks of which other module. The agenda of a module is made of
these: `mem_items_iff` goes through the items that one statement contributes, and
`mem_agenda_iff` through those of all statements of a module.
-/

namespace ExportTrail.Export

/-- The statements of a module that consists of export statements only. -/
theorem statements_eq_namedChildren {program : Cursor}
    (entered : bodyKinds.contains program.kind = false) (outer : program.kind ≠ statementKind)
    (each : ∀ s ∈ program.namedChildren, s.kind = statementKind) :
    statements program = program.namedChildren := by
  have gather (stack found : List Cursor) (each : ∀ s ∈ stack, s.kind = statementKind) :
      collector.traverseStack stack found = found ++ stack := by
    induction stack generalizing found with
    | nil => rw [Visitor.traverseStack, List.append_nil]
    | cons s stack ih =>
      rw [List.forall_mem_cons] at each
      rw [Visitor.traverseStack, visit_statement each.1, if_neg Bool.false_ne_true, ih _ each.2,
        List.append_assoc]
      rfl
  have root : collector.visit program [] = (true, []) := by
    rw [visit_other outer, entered]
    rfl
  rw [statements, Visitor.traverse, Visitor.traverseStack, root, if_pos rfl, List.append_nil]
  exact gather program.namedChildren [] each

/-- Whether a statement gives a node of its own module to a name. -/
inductive Matches (name : String) (s : Cursor) : Cursor → Prop
  /-- A declaration of the name, or the initialiser of a declarator of the name. -/
  | declaration {found : Cursor} (form : form? s = some .declaration)
    (declares : matchDeclaration s name = some found) : Matches name s found
  /-- The local name of a specifier that exports it as the name. -/
  | specifier {inner : Cursor} (form : form? s = some .specifiers)
    (unsourced : s.field? "source" = none) (exports : (name, inner) ∈ specifiers s) :
    Matches name s inner
  /-- The declaration or the value of a default export. -/
  | default {found : Cursor} (form : form? s = some .default) (asked : name = "default")
    (exports : defaultValue s = some found) : Matches name s found
  /-- The export of another module as one name. -/
  | namespaced {clause : Cursor} (form : form? s = some .namespaced)
    (mem : clause ∈ s.namedChildrenOf "namespace_export")
    (named : namespaceIsNamed name clause = true) : Matches name s clause

/-- Whether a statement passes a name on to another module, which is asked for `name'`. -/
inductive Forwards (name : String) (s : Cursor) : String → Prop
  /-- Everything is exported under the name it has in the other module. -/
  | wildcard (form : form? s = some .wildcard) : Forwards name s name
  /-- A value specifier exports a name of the other module as the name. -/
  | specifier {inner : Cursor} (form : form? s = some .specifiers)
    (sourced : (s.field? "source").isSome) (exports : (name, inner) ∈ specifiers s) :
    Forwards name s inner.bindingName

/-- Whether some statement of a module gives a node of the module to a name. -/
def LocalMatch (program : Cursor) (name : String) (found : Cursor) : Prop :=
  ∃ s ∈ statements program, Matches name s found

/-- The items that a statement contributes to the search for a name. -/
inductive Contributes (name : String) (s : Cursor) : Item → Prop
  | found {found : Cursor} (hit : Matches name s found) :
    Contributes name s (.settle (some found))
  /-- A default export without a declaration and a value clears the result. -/
  | void (form : form? s = some .default) (asked : name = "default")
    (nothing : defaultValue s = none) : Contributes name s (.settle none)
  | wildcard (form : form? s = some .wildcard) : Contributes name s (.ask s name false)
  | specifier {inner : Cursor} (form : form? s = some .specifiers)
    (sourced : (s.field? "source").isSome) (exports : (name, inner) ∈ specifiers s) :
    Contributes name s (.ask s inner.bindingName true)

/-- The local names of the value specifiers that export a name, in order. -/
def localNames (name : String) (s : Cursor) : List Cursor :=
  ((specifiers s).filter (·.1 = name)).map Prod.snd

/-- Every specifier that exports a name contributes the one item. -/
theorem specifierItems_eq (name : String) (s : Cursor) :
    specifierItems s name = (localNames name s).map fun inner =>
      if (s.field? "source").isSome then .ask s inner.bindingName true
      else .settle (some inner) := by
  rw [specifierItems, localNames]
  induction specifiers s with
  | nil => rfl
  | cons specifier rest ih =>
    obtain ⟨exported, inner⟩ := specifier
    by_cases named : exported = name
    · split <;> simp_all
    · simp_all

theorem mem_specifierItems_iff {s : Cursor} {name : String} {item : Item} :
    item ∈ specifierItems s name ↔ ∃ inner, (name, inner) ∈ specifiers s ∧
      item = if (s.field? "source").isSome then .ask s inner.bindingName true
        else .settle (some inner) := by
  have mem (inner : Cursor) : inner ∈ localNames name s ↔ (name, inner) ∈ specifiers s := by
    simp [localNames]
  simp only [specifierItems_eq, List.mem_map, mem, eq_comm]

theorem mem_items_iff {name : String} {s : Cursor} {item : Item} :
    item ∈ items name s ↔ Contributes name s item := by
  constructor
  · intro mem
    unfold items at mem
    split at mem
    · next form =>
      split at mem
      · next found declares =>
        obtain rfl := List.mem_singleton.1 mem
        exact .found (.declaration form declares)
      · simp at mem
    · next form =>
      obtain ⟨inner, exports, rfl⟩ := mem_specifierItems_iff.1 mem
      split
      · next sourced => exact .specifier form sourced exports
      · next unsourced => exact .found (.specifier form (by simpa using unsourced) exports)
    · next form =>
      split at mem
      · next asked =>
        obtain rfl := List.mem_singleton.1 mem
        cases exports : defaultValue s with
        | none => exact .void form asked exports
        | some found => exact .found (.default form asked exports)
      · simp at mem
    · next form =>
      obtain rfl := List.mem_singleton.1 mem
      exact .wildcard form
    · next form =>
      obtain ⟨clause, hclause, rfl⟩ := List.mem_map.1 mem
      obtain ⟨hmem, named⟩ := List.mem_filter.1 hclause
      exact .found (.namespaced form hmem named)
    · simp at mem
  · intro contributes
    cases contributes with
    | found hit =>
      cases hit with
      | declaration form declares => simp [items, form, declares]
      | specifier form unsourced exports =>
        simp only [items, form, mem_specifierItems_iff]
        exact ⟨_, exports, by simp [unsourced]⟩
      | default form asked exports => simp [items, form, asked, exports]
      | namespaced form mem named => simp [items, form, mem, named]
    | void form asked nothing => simp [items, form, asked, nothing]
    | wildcard form => simp [items, form]
    | specifier form sourced exports =>
      simp only [items, form, mem_specifierItems_iff]
      exact ⟨_, exports, by simp [sourced]⟩

theorem mem_agenda_iff {program : Cursor} {name : String} {item : Item} :
    item ∈ agenda program name ↔ ∃ s ∈ statements program, Contributes name s item := by
  simp only [agenda, List.mem_flatMap, mem_items_iff]

/-- What is settled to be found is a local match. -/
theorem settle_mem_agenda_iff {program : Cursor} {name : String} {found : Cursor} :
    .settle (some found) ∈ agenda program name ↔ LocalMatch program name found := by
  rw [mem_agenda_iff, LocalMatch]
  constructor
  · rintro ⟨s, hs, contributes⟩
    cases contributes with
    | found hit => exact ⟨s, hs, hit⟩
  · rintro ⟨s, hs, hit⟩
    exact ⟨s, hs, .found hit⟩

/-- What is asked of other modules is what some statement passes on. -/
theorem forwards_of_mem_agenda {program edge : Cursor} {name name' : String} {clears : Bool}
    (h : .ask edge name' clears ∈ agenda program name) :
    edge ∈ statements program ∧ Forwards name edge name' := by
  obtain ⟨s, hs, contributes⟩ := mem_agenda_iff.1 h
  cases contributes with
  | wildcard form => exact ⟨hs, .wildcard form⟩
  | specifier form sourced exports => exact ⟨hs, .specifier form sourced exports⟩

/-- What is asked of another module without risk for the result so far is the name itself. -/
theorem name_of_mem_agenda {program edge : Cursor} {name name' : String}
    (h : .ask edge name' false ∈ agenda program name) : name' = name := by
  obtain ⟨s, -, contributes⟩ := mem_agenda_iff.1 h
  cases contributes with
  | wildcard form => rfl

/-- What is asked of another module without risk for the result so far is what a wildcard passes
on. -/
theorem wildcard_mem_agenda_iff {program s : Cursor} {name : String} :
    .ask s name false ∈ agenda program name ↔ s ∈ statements program ∧ form? s = some .wildcard := by
  rw [mem_agenda_iff]
  constructor
  · rintro ⟨s', hs, contributes⟩
    cases contributes with
    | wildcard form => exact ⟨hs, form⟩
  · rintro ⟨hs, form⟩
    exact ⟨s, hs, .wildcard form⟩

end ExportTrail.Export
