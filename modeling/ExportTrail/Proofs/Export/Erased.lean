import ExportTrail.Import
import ExportTrail.Proofs.Export.Gathered
import ExportTrail.Proofs.Parse.Prune

/-!
# Erasing exports of types

An export statement that binds no value and an export specifier for types only are erased: they are
pruned from the tree of their module with all below them (`Export.isErased`). What a module gives to
a search is the same without them, item by item (`agenda_erased`), since an erased statement
contributes nothing, an erased specifier binds nothing, and the statements that are left are of the
same form.

This relies on what the grammars say of export statements and specifiers (`Grammatical`): no field
that is read names one, a namespace export holds none, and no statement stands inside a specifier.
-/

namespace ExportTrail.Export

variable {c c' s s' : Cursor} {name : String}

/-! ## What is erased -/

/-- The kind of an export specifier. -/
def specifierKind : String := "export_specifier"

/-- A cursor on the root of a tree. -/
def bare (t : Tree) : Cursor := .top (.root 0 [] t) none

/-- Whether a node is an export statement that binds no value, or an export specifier for types
only. -/
def isErased (t : Tree) : Bool :=
  if t.kind = statementKind then (form? (bare t)).isNone
  else if t.kind = specifierKind then isTypeOnly (bare t)
  else false

/-- Whether a kind is that of export statements or of export specifiers. -/
def IsExport (kind : String) : Prop := kind = statementKind ∨ kind = specifierKind

instance (kind : String) : Decidable (IsExport kind) :=
  inferInstanceAs (Decidable (kind = statementKind ∨ kind = specifierKind))

/-- The fields that are read. -/
def readFields : List String := ["source", "declaration", "value", "name", "alias"]

/-- What the grammars say of a node of a source that they accept. -/
structure Grammatical (t : Tree) : Prop where
  /-- No field that is read names an export statement or specifier. -/
  fields : ∀ name ∈ readFields, ∀ child ∈ t.field? name, ¬ IsExport child.kind
  /-- A namespace export holds none. -/
  namespaced : t.kind = "namespace_export" → ∀ child ∈ t.children, ¬ IsExport child.kind
  /-- No statement stands inside a specifier. -/
  specifier : t.kind = specifierKind → ∀ u ∈ t.preorder, u.kind ≠ statementKind

instance (t : Tree) : Decidable (Grammatical t) :=
  decidable_of_iff
    ((∀ name ∈ readFields, ∀ child ∈ t.field? name, ¬ IsExport child.kind) ∧
      (t.kind = "namespace_export" → ∀ child ∈ t.children, ¬ IsExport child.kind) ∧
      (t.kind = specifierKind → ∀ u ∈ t.preorder, u.kind ≠ statementKind))
    ⟨fun ⟨fields, namespaced, specifier⟩ => ⟨fields, namespaced, specifier⟩,
      fun ⟨fields, namespaced, specifier⟩ => ⟨fields, namespaced, specifier⟩⟩

theorem isErased_of_not_isExport {t : Tree} (h : ¬ IsExport t.kind) : isErased t = false := by
  obtain ⟨statement, specifier⟩ := not_or.1 h
  rw [isErased, if_neg statement, if_neg specifier]

theorem isErased_of_kind {t : Tree} {kind : String} (h : t.kind = kind) (other : ¬ IsExport kind) :
    isErased t = false :=
  isErased_of_not_isExport (h ▸ other)

/-- Whether there is a named child of a kind does not depend on how the node was reached. -/
theorem namedChildrenOf_ne_nil {kind : String} :
    c.namedChildrenOf kind ≠ [] ↔ ∃ t ∈ c.node.tree.children, t.named = true ∧ t.kind = kind := by
  constructor
  · intro some
    obtain ⟨d, mem⟩ := List.exists_mem_of_ne_nil _ some
    obtain ⟨child, ofKind⟩ := List.mem_filter.1 mem
    obtain ⟨n, inner, rfl⟩ := List.mem_map.1 child
    obtain ⟨inner, named⟩ := List.mem_filter.1 inner
    obtain ⟨i, lt, rfl⟩ := List.mem_mapIdx.1 inner
    exact ⟨_, List.getElem_mem lt, named, of_decide_eq_true ofKind⟩
  · rintro ⟨t, mem, named, ofKind⟩
    obtain ⟨i, lt, rfl⟩ := List.getElem_of_mem mem
    refine List.ne_nil_of_mem (a := c.via (c.node.childAt i c.node.tree.children[i])) ?_
    refine List.mem_filter.2 ⟨List.mem_map_of_mem (List.mem_filter.2 ⟨?_, named⟩), ?_⟩
    · exact List.mem_mapIdx.2 ⟨i, lt, rfl⟩
    · exact decide_eq_true ofKind

theorem isSome_field? : (c.field? name).isSome = (c.node.tree.field? name).isSome := by
  rw [Cursor.field?, Node.field?, Tree.field?]
  cases c.node.tree.fields.lookup name <;> simp

/-- The form of a statement is that of its tree. -/
theorem form?_bare (c : Cursor) : form? (bare c.node.tree) = form? c := by
  unfold form?
  simp only [isSome_field?, namedChildrenOf_ne_nil]
  rfl

/-- A statement that is erased has no form. -/
theorem form?_of_isErased (statement : s.kind = statementKind)
    (erased : isErased s.node.tree = true) : form? s = none := by
  have statement : s.node.tree.kind = statementKind := statement
  rw [isErased, if_pos statement, form?_bare] at erased
  exact Option.isNone_iff_eq_none.1 erased

/-- A specifier that is erased is for types only. -/
theorem isTypeOnly_of_isErased (specifier : s.kind = specifierKind)
    (erased : isErased s.node.tree = true) : isTypeOnly s = true := by
  have specifier : s.node.tree.kind = specifierKind := specifier
  rw [isErased, if_neg (by rw [specifier]; decide), if_pos specifier] at erased
  exact erased

/-! ## Cursors in erased trees -/

/-- Whether a cursor stands in an erased tree where another one stands in the whole tree. -/
abbrev Erased (c c' : Cursor) : Prop := c.Pruned isErased Grammatical c'

namespace Erased

theorem hasToken (h : Erased c c') {token : String} (other : ¬ IsExport token) :
    c'.hasToken token = c.hasToken token :=
  Cursor.Pruned.hasToken h fun _ same => isErased_of_kind same other

theorem isTypeOnly (h : Erased c c') : isTypeOnly c' = isTypeOnly c := by
  rw [Export.isTypeOnly, Export.isTypeOnly, hasToken h (by decide), hasToken h (by decide)]

theorem fieldKept (h : Erased c c') (read : name ∈ readFields) :
    c.node.tree.FieldKept isErased name :=
  fun child named => isErased_of_not_isExport (h.here.fields name read child named)

theorem field? (h : Erased c c') (name : String) (read : name ∈ readFields) :
    Option.Rel Erased (c.field? name) (c'.field? name) :=
  Cursor.Pruned.field? h (h.fieldKept read)

/-- The named children of another kind than those of exports. -/
theorem namedChildrenOf (h : Erased c c') {kind : String} (other : ¬ IsExport kind) :
    List.Forall₂ Erased (c.namedChildrenOf kind) (c'.namedChildrenOf kind) :=
  Cursor.Pruned.namedChildrenOf h fun _ same => isErased_of_kind same other

theorem isSome_field? (h : Erased c c') (read : name ∈ readFields) :
    (c'.field? name).isSome = (c.field? name).isSome :=
  isSome_eq_of_rel (h.field? name read)

/-- The statements that are left are of the same form. -/
theorem form? (h : Erased s s') : form? s' = form? s := by
  have children (kind : String) (other : ¬ IsExport kind) :
      s'.namedChildrenOf kind ≠ [] ↔ s.namedChildrenOf kind ≠ [] := by
    have related := h.namedChildrenOf other
    rw [not_iff_not, ← List.length_eq_zero_iff, ← List.length_eq_zero_iff, related.length_eq]
  unfold Export.form?
  rw [h.hasToken (by decide), h.hasToken (by decide), h.hasToken (by decide),
    h.isSome_field? (by decide)]
  simp only [children "namespace_export" (by decide), children "export_clause" (by decide)]

end Erased

/-! ## What statements contribute -/

section

/-- The last of related cursors. -/
theorem getLast?_erased {ds ds' : List Cursor} (h : List.Forall₂ Erased ds ds') :
    Option.Rel Erased ds.getLast? ds'.getLast? := by
  have reversed := List.rel_reverse h
  rw [← List.head?_reverse, ← List.head?_reverse]
  generalize ds.reverse = es at reversed ⊢
  generalize ds'.reverse = es' at reversed ⊢
  cases reversed with
  | nil => exact .none
  | cons first _ => exact .some first

theorem initialiser?_erased (h : Erased c c') :
    Option.Rel Erased (initialiser? name c) (initialiser? name c') := by
  have bound := h.field? "name" (by decide)
  have value := h.field? "value" (by decide)
  rw [initialiser?, initialiser?]
  generalize c.field? "name" = found at bound ⊢
  generalize c'.field? "name" = found' at bound ⊢
  cases bound with
  | none => exact .none
  | some bound =>
    dsimp only
    rw [bound.kind, bound.text]
    split
    · exact value
    · exact .none

theorem declared?_erased (h : Erased c c') :
    Option.Rel Erased (declared? c name) (declared? c' name) := by
  have own := h.field? "name" (by decide)
  rw [declared?, declared?]
  generalize c.field? "name" = found at own ⊢
  generalize c'.field? "name" = found' at own ⊢
  cases own with
  | none =>
    have declarators : List.Forall₂ Erased (c.namedChildrenOf "variable_declarator")
        (c'.namedChildrenOf "variable_declarator") := h.namedChildrenOf (by decide)
    exact getLast?_erased (List.rel_filterMap (fun _ _ h => initialiser?_erased h) declarators)
  | some own =>
    dsimp only
    rw [own.text]
    split
    · exact .some h
    · exact .none

theorem matchDeclaration_erased (h : Erased s s') :
    Option.Rel Erased (matchDeclaration s name) (matchDeclaration s' name) :=
  rel_bind (h.field? "declaration" (by decide)) fun _ _ declaration =>
    declared?_erased declaration

theorem defaultValue_erased (h : Erased s s') :
    Option.Rel Erased (defaultValue s) (defaultValue s') :=
  rel_orElse (h.field? "declaration" (by decide)) (h.field? "value" (by decide))

theorem namespaceIsNamed_erased (namespaced : c.kind = "namespace_export") (h : Erased c c') :
    namespaceIsNamed name c' = namespaceIsNamed name c := by
  have all : (c.namedChildren.filter fun d => !isErased d.node.tree) = c.namedChildren := by
    rw [List.filter_eq_self]
    intro d mem
    obtain ⟨n, inner, rfl⟩ := List.mem_map.1 mem
    obtain ⟨i, lt, rfl⟩ := List.mem_mapIdx.1 (List.mem_filter.1 inner).1
    have other := h.here.namespaced namespaced _ (List.getElem_mem lt)
    have kept : isErased c.node.tree.children[i] = false := isErased_of_not_isExport other
    exact congrArg (!·) kept
  have last := getLast?_erased (all ▸ h.namedChildren)
  rw [namespaceIsNamed, namespaceIsNamed]
  generalize c.namedChildren.getLast? = own at last ⊢
  generalize c'.namedChildren.getLast? = own' at last ⊢
  cases last with
  | none => rfl
  | some own => dsimp only; rw [own.bindingName]

/-- Whether two specifiers export the same name. -/
def SpecifierErased (a b : String × Cursor) : Prop := b.1 = a.1 ∧ Erased a.2 b.2

theorem specifier?_erased (h : Erased c c') :
    Option.Rel SpecifierErased (specifier? c) (specifier? c') := by
  have inner := h.field? "name" (by decide)
  have renamed := h.field? "alias" (by decide)
  rw [specifier?, specifier?, h.isTypeOnly]
  split
  · exact .none
  · generalize c.field? "name" = found at inner ⊢
    generalize c'.field? "name" = found' at inner ⊢
    cases inner with
    | none => exact .none
    | some inner => exact .some ⟨(rel_getD renamed inner).bindingName, inner⟩

/-- A specifier that is erased exports no value, so the others make up all that are exported. -/
theorem specifiers_erased (h : Erased s s') :
    List.Forall₂ SpecifierErased (specifiers s) (specifiers s') := by
  refine List.rel_flatMap (h.namedChildrenOf (by decide)) fun clause clause' clauses => ?_
  have related := List.rel_filterMap (fun _ _ h => specifier?_erased h)
    (clauses.filter_namedChildrenOf specifierKind)
  have same : (clause.namedChildrenOf specifierKind).filterMap
        (fun d => if !isErased d.node.tree then specifier? d else none) =
      (clause.namedChildrenOf specifierKind).filterMap specifier? := by
    refine List.filterMap_congr fun d mem => ?_
    cases erased : isErased d.node.tree with
    | false => rfl
    | true =>
      have ofKind : d.kind = specifierKind := of_decide_eq_true (List.mem_filter.1 mem).2
      rw [specifier?, isTypeOnly_of_isErased ofKind erased]
      rfl
  rw [List.filterMap_filter, same] at related
  exact related

/-- Whether two items do the same for a search. -/
inductive Item.Erased : Item → Item → Prop
  | settle {result result' : Option Cursor} (results : Option.Rel Export.Erased result result') :
    Erased (.settle result) (.settle result')
  | ask {edge edge' : Cursor} (edges : Export.Erased edge edge') (name : String) (clears : Bool) :
    Erased (.ask edge name clears) (.ask edge' name clears)

theorem specifierItems_erased (h : Erased s s') :
    List.Forall₂ Item.Erased (specifierItems s name) (specifierItems s' name) := by
  refine List.rel_filterMap ?_ (specifiers_erased h)
  rintro ⟨exported, inner⟩ ⟨exported', inner'⟩ ⟨same, inners⟩
  obtain rfl : exported' = exported := same
  dsimp only
  rw [h.isSome_field? (by decide)]
  split
  · split
    · rw [inners.bindingName]
      exact .some (.ask h _ true)
    · exact .some (.settle (.some inners))
  · exact .none

/-- A statement contributes the same when what can be erased in it is erased. -/
theorem items_erased (h : Erased s s') :
    List.Forall₂ Item.Erased (items name s) (items name s') := by
  rw [items, items, h.form?]
  cases form? s with
  | none => exact .nil
  | some form =>
    cases form with
    | declaration =>
      have matched : Option.Rel Erased (matchDeclaration s name) (matchDeclaration s' name) :=
        matchDeclaration_erased h
      dsimp only
      generalize matchDeclaration s name = found at matched ⊢
      generalize matchDeclaration s' name = found' at matched ⊢
      cases matched with
      | none => exact .nil
      | some matched => exact .cons (.settle (.some matched)) .nil
    | specifiers => exact specifierItems_erased h
    | default =>
      dsimp only
      split
      · exact .cons (.settle (defaultValue_erased h)) .nil
      · exact .nil
    | wildcard => exact .cons (.ask h name false) .nil
    | namespaced =>
      have clauses : List.Forall₂ (fun a b => a.kind = "namespace_export" ∧ Erased a b)
          (s.namedChildrenOf "namespace_export") (s'.namedChildrenOf "namespace_export") :=
        (List.forall₂_and_left _ _).2 ⟨fun d mem => of_decide_eq_true (List.mem_filter.1 mem).2,
          h.namedChildrenOf (by decide)⟩
      refine List.rel_map ?_ (List.rel_filter ?_ clauses)
      · rintro clause clause' ⟨-, clauses⟩
        exact .settle (.some clauses)
      · rintro clause clause' ⟨ofKind, clauses⟩
        simp only [namespaceIsNamed_erased ofKind clauses]

end

/-! ## The statements of a module -/

/-- Nothing is gathered below nodes that hold no export statements. -/
theorem traverseStack_barren (cs stack found : List Cursor)
    (barren : ∀ c ∈ cs, c.node.tree.Everywhere fun u => u.kind ≠ statementKind) :
    collector.traverseStack (cs ++ stack) found = collector.traverseStack stack found := by
  induction cs using stack_induction with
  | nil => rfl
  | cons c cs later below =>
    obtain ⟨here, barren⟩ := List.forall_mem_cons.1 barren
    rw [List.cons_append, Visitor.traverseStack, visit_other here.here]
    split
    · rw [← List.append_assoc]
      refine below fun d mem => ?_
      rcases List.mem_append.1 mem with mem | mem
      · exact Cursor.everywhere_of_mem_namedChildren here mem
      · exact barren d mem
    · exact later barren

/-- A node that is erased gives nothing but itself: a statement is not entered, and there is none
below a specifier. -/
theorem traverseStack_of_isErased (grammatical : c.node.tree.Everywhere Grammatical)
    (erased : isErased c.node.tree = true) (stack found : List Cursor) :
    ∃ own, (own = [] ∨ own = [c]) ∧
      collector.traverseStack (c :: stack) found =
        collector.traverseStack stack (found ++ own) := by
  by_cases statement : c.kind = statementKind
  · refine ⟨[c], .inr rfl, ?_⟩
    rw [Visitor.traverseStack, visit_statement statement, if_neg Bool.false_ne_true]
  · have specifier : c.node.tree.kind = specifierKind := by
      by_contra other
      rw [isErased_of_not_isExport (not_or.2 ⟨statement, other⟩)] at erased
      cases erased
    refine ⟨[], .inl rfl, ?_⟩
    rw [List.append_nil]
    exact traverseStack_barren [c] stack found
      (List.forall_mem_singleton.2 (grammatical.here.specifier specifier))

/-- The statements that are gathered from erased nodes are those that are not erased. -/
theorem traverseStack_erased {stack stack' found found' : List Cursor}
    (grammatical : ∀ c ∈ stack, c.node.tree.Everywhere Grammatical)
    (left : List.Forall₂ Erased (stack.filter fun c => !isErased c.node.tree) stack')
    (founds : List.Forall₂ Erased (found.filter fun c => !isErased c.node.tree) found') :
    List.Forall₂ Erased
      ((collector.traverseStack stack found).filter fun c => !isErased c.node.tree)
      (collector.traverseStack stack' found') := by
  induction stack using stack_induction generalizing stack' found found' with
  | nil =>
    cases left
    rw [Visitor.traverseStack, Visitor.traverseStack]
    exact founds
  | cons c stack later below =>
    obtain ⟨here, grammatical⟩ := List.forall_mem_cons.1 grammatical
    cases erased : isErased c.node.tree with
    | true =>
      obtain ⟨own, which, skip⟩ := traverseStack_of_isErased here erased stack found
      have nothing : own.filter (fun c => !isErased c.node.tree) = [] := by
        rcases which with rfl | rfl
        · rfl
        · simp [erased]
      rw [skip]
      refine later grammatical ?_ ?_
      · simpa [erased] using left
      · rwa [List.filter_append, nothing, List.append_nil]
    | false =>
      rw [List.filter_cons, erased, if_pos (by rfl)] at left
      cases left with
      | cons first left =>
        by_cases statement : c.kind = statementKind
        · rw [Visitor.traverseStack, Visitor.traverseStack, visit_statement statement,
            visit_statement (first.kind.trans statement), if_neg Bool.false_ne_true,
            if_neg Bool.false_ne_true]
          refine later grammatical left ?_
          rw [List.filter_append]
          refine List.rel_append founds ?_
          rw [List.filter_singleton, erased]
          exact .cons first .nil
        · rw [Visitor.traverseStack, Visitor.traverseStack, visit_other statement,
            visit_other (by rwa [first.kind]), first.kind]
          split
          · refine below (fun d mem => ?_) ?_ founds
            · rcases List.mem_append.1 mem with mem | mem
              · exact Cursor.everywhere_of_mem_namedChildren here mem
              · exact grammatical d mem
            · rw [List.filter_append]
              exact List.rel_append first.namedChildren left
          · exact later grammatical left founds

/-- What gives nothing may as well be left out. -/
theorem flatMap_filter {α β : Type} {p : α → Bool} {f : α → List β} {l : List α}
    (h : ∀ a ∈ l, p a = false → f a = []) : (l.filter p).flatMap f = l.flatMap f := by
  induction l with
  | nil => rfl
  | cons a l ih =>
    obtain ⟨here, rest⟩ := List.forall_mem_cons.1 h
    cases kept : p a with
    | true => simp [kept, ih rest]
    | false => simp [kept, ih rest, here kept]

/-- **A module gives a search the same, item by item, when it is erased.** -/
theorem agenda_erased {program program' : Cursor} (h : Erased program program')
    (root : ¬ IsExport program.kind) (name : String) :
    List.Forall₂ Item.Erased (agenda program name) (agenda program' name) := by
  have kept : isErased program.node.tree = false := isErased_of_not_isExport root
  have related : List.Forall₂ Erased
      ((statements program).filter fun s => !isErased s.node.tree) (statements program') := by
    refine traverseStack_erased (List.forall_mem_singleton.2 h.everywhere) ?_ .nil
    rw [List.filter_singleton, kept]
    exact .cons h .nil
  have spared : ((statements program).filter fun s => !isErased s.node.tree).flatMap (items name) =
      agenda program name := by
    refine flatMap_filter fun s mem erased => ?_
    have erased : isErased s.node.tree = true := by simpa using erased
    rw [items, form?_of_isErased (kind_of_mem_statements mem) erased]
  rw [← spared]
  exact List.rel_flatMap related fun s s' h => items_erased h

end ExportTrail.Export
