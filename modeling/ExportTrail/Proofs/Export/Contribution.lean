import ExportTrail.Proofs.Export.Agenda

/-!
# What one module contributes

What the search of a module asks of other modules, and what it comes to, said without reference to
the search.

* `requests` are what a module asks, statement by statement: a wildcard passes on the name itself,
  and a clause with a source asks for the local name of each value specifier that exports the name.
* `outcomes` are the matches of the module's own and the answers to its requests, in the order of
  the statements. An answer of nothing to a wildcard is not among them; any other answer is.

The agenda of a module makes these requests and comes to these outcomes (`agenda_eq`).
-/

namespace ExportTrail.Export

/-! ## Requests and outcomes -/

/-- What is asked of another module: the edge that leads there, and the name. -/
abbrev Request := Cursor × String

/-- What a statement asks of other modules, in order. -/
def requestsOf (name : String) (s : Cursor) : List Request :=
  match form? s with
  | some .wildcard => [(s, name)]
  | some .specifiers =>
    if (s.field? "source").isSome then
      (localNames name s).map fun inner => (s, inner.bindingName)
    else []
  | _ => []

/-- The results that a statement comes to, if its requests have these answers. A default export
without a declaration and a value comes to nothing, which counts as a result. -/
def outcomesOf (name : String) (s : Cursor) (answers : List (Option Cursor)) :
    List (Option Cursor) :=
  match form? s with
  | some .declaration => (matchDeclaration s name).toList.map some
  | some .specifiers =>
    if (s.field? "source").isSome then answers else (localNames name s).map some
  | some .default => if name = "default" then [defaultValue s] else []
  | some .wildcard => answers.filter Option.isSome
  | some .namespaced =>
    ((s.namedChildrenOf "namespace_export").filter (namespaceIsNamed name)).map some
  | none => []

/-- What a module asks of other modules. -/
def requests (program : Cursor) (name : String) : List Request :=
  (statements program).flatMap (requestsOf name)

/-- The results that statements come to. Each takes as many of the answers as it has requests. -/
def outcomes (name : String) : List Cursor → List (Option Cursor) → List (Option Cursor)
  | [], _ => []
  | s :: later, answers =>
    outcomesOf name s (answers.take (requestsOf name s).length) ++
      outcomes name later (answers.drop (requestsOf name s).length)

/-- Whether a declaration gives a node to a name. -/
inductive Declares (declaration : Cursor) (name : String) : Cursor → Prop
  /-- The declaration itself, if the name is its own. -/
  | own {bound : Cursor} (named : declaration.field? "name" = some bound)
    (same : bound.text = name) : Declares declaration name declaration
  /-- The initialiser of the last declarator that gives the name one, if the declaration has no name
  of its own. -/
  | initialiser {before after : List Cursor} {declarator found : Cursor}
    (nameless : declaration.field? "name" = none)
    (declarators : declaration.namedChildrenOf "variable_declarator" =
      before ++ declarator :: after)
    (gives : initialiser? name declarator = some found)
    (last : ∀ other ∈ after, initialiser? name other = none) : Declares declaration name found

theorem declared?_eq_some_iff {declaration found : Cursor} {name : String} :
    declared? declaration name = some found ↔ Declares declaration name found := by
  unfold declared?
  constructor
  · intro h
    split at h
    · next bound named =>
      split at h
      · next same =>
        obtain rfl := Option.some.inj h
        exact .own named same
      · cases h
    · next nameless =>
      rw [List.getLast?_filterMap, List.findSome?_eq_some_iff] at h
      obtain ⟨after, declarator, before, reversed, gives, last⟩ := h
      have declarators : declaration.namedChildrenOf "variable_declarator" =
          before.reverse ++ declarator :: after.reverse := by
        rw [← List.reverse_reverse (declaration.namedChildrenOf _), reversed]
        simp
      exact .initialiser nameless declarators gives (by simpa using last)
  · intro declares
    cases declares with
    | own named same => rw [named]; exact if_pos same
    | @initialiser before after declarator found nameless declarators gives last =>
      have reversed : (before ++ declarator :: after).reverse =
          after.reverse ++ declarator :: before.reverse := by simp
      rw [nameless, declarators]
      dsimp only
      rw [List.getLast?_filterMap, reversed, List.findSome?_eq_some_iff]
      exact ⟨_, _, _, rfl, gives, by simpa using last⟩

/-! ## The order of the requests -/

theorem field?_address {c d : Cursor} {name : String} (h : c.field? name = some d) :
    c.node.address <:+ d.node.address := by
  obtain ⟨n, field, rfl⟩ := Option.map_eq_some_iff.1 h
  rw [Node.field?] at field
  split at field
  · obtain ⟨t, -, rfl⟩ := Option.map_eq_some_iff.1 field
    exact List.suffix_cons _ _
  · cases field

theorem specifier?_address {c inner : Cursor} {exported : String}
    (h : specifier? c = some (exported, inner)) : c.node.address <:+ inner.node.address := by
  rw [specifier?] at h
  split at h
  · cases h
  · obtain ⟨inner', named, eq⟩ := Option.map_eq_some_iff.1 h
    cases eq
    exact field?_address named

theorem pairwise_apart_namedChildrenOf (c : Cursor) (kind : String) :
    (c.namedChildrenOf kind).Pairwise Visitor.Apart :=
  (Visitor.pairwise_apart_namedChildren c).filter _

/-- The local names that a statement exports are in the order of the source. -/
theorem pairwise_localNames (name : String) (s : Cursor) :
    (localNames name s).Pairwise fun a b => a.node.Precedes b.node := by
  refine List.pairwise_map.2 (List.Pairwise.filter _ ?_)
  rw [specifiers, List.pairwise_flatMap]
  constructor
  · intro clause _
    refine List.pairwise_filterMap.2 ((pairwise_apart_namedChildrenOf clause _).imp ?_)
    intro c d apart (exported, inner) hc (exported', inner') hd
    exact apart.precedes (specifier?_address hc) (specifier?_address hd)
  · refine (pairwise_apart_namedChildrenOf s _).imp ?_
    intro clause clause' apart (exported, inner) mem (exported', inner') mem'
    have below {clause inner : Cursor} {exported : String}
        (mem : (exported, inner) ∈
          (clause.namedChildrenOf "export_specifier").filterMap specifier?) :
        clause.node.address <:+ inner.node.address := by
      obtain ⟨c, child, eq⟩ := List.mem_filterMap.1 mem
      obtain ⟨i, address⟩ := Visitor.address_of_mem_namedChildren (List.mem_filter.1 child).1
      exact ((List.suffix_cons i _).trans (address ▸ List.suffix_refl _)).trans
        (specifier?_address eq)
    exact apart.precedes (below mem) (below mem')

theorem edge_of_mem_requestsOf {name : String} {s : Cursor} {request : Request}
    (h : request ∈ requestsOf name s) : request.1 = s := by
  unfold requestsOf at h
  split at h
  · rw [List.mem_singleton.1 h]
  · split at h
    · obtain ⟨inner, -, rfl⟩ := List.mem_map.1 h
      rfl
    · cases h
  · cases h

/-- Statements ask in the order of the source. -/
theorem pairwise_requests (program : Cursor) (name : String) :
    (requests program name).Pairwise fun a b => a.1 = b.1 ∨ a.1.node.Precedes b.1.node := by
  rw [requests, List.pairwise_flatMap]
  constructor
  · intro s _
    refine List.pairwise_iff_forall_sublist.2 fun {a b} sub => .inl ?_
    have mem := sub.subset
    rw [edge_of_mem_requestsOf (mem List.mem_cons_self),
      edge_of_mem_requestsOf (mem (by simp : b ∈ [a, b]))]
  · refine (pairwise_statements program).imp ?_
    intro s s' before a mem b mem'
    rw [edge_of_mem_requestsOf mem, edge_of_mem_requestsOf mem']
    exact .inr before

/-! ## The agenda as requests and outcomes -/

/-- The request that an item makes. -/
def Item.request? : Item → Option Request
  | .settle _ => none
  | .ask edge name _ => some (edge, name)

/-- The requests that items make. -/
def asked (items : List Item) : List Request := items.filterMap Item.request?

@[simp] theorem asked_nil : asked [] = [] := rfl

@[simp] theorem asked_settle (result : Option Cursor) (rest : List Item) :
    asked (.settle result :: rest) = asked rest := rfl

@[simp] theorem asked_ask (edge : Cursor) (name : String) (clears : Bool) (rest : List Item) :
    asked (.ask edge name clears :: rest) = (edge, name) :: asked rest := rfl

theorem asked_append (items items' : List Item) :
    asked (items ++ items') = asked items ++ asked items' :=
  List.filterMap_append

/-- The results that items come to, if their requests have these answers. -/
def outcomesAlong : List Item → List (Option Cursor) → List (Option Cursor)
  | [], _ => []
  | .settle result :: rest, answers => result :: outcomesAlong rest answers
  | .ask _ _ _ :: rest, [] => outcomesAlong rest []
  | .ask _ _ clears :: rest, answer :: answers =>
    (if clears then [answer] else [answer].filter Option.isSome) ++ outcomesAlong rest answers

theorem outcomesAlong_append (items items' : List Item) (answers : List (Option Cursor)) :
    outcomesAlong (items ++ items') answers =
      outcomesAlong items (answers.take (asked items).length) ++
        outcomesAlong items' (answers.drop (asked items).length) := by
  fun_induction outcomesAlong items answers with
  | case1 answers => simp [outcomesAlong]
  | case2 result rest answers ih => simp [outcomesAlong, ih]
  | case3 edge name clears rest ih => simpa [outcomesAlong] using ih
  | case4 edge name clears rest answer answers ih => simp [outcomesAlong, ih]

/-- Matches of a module's own, which are not asked for. -/
theorem along_settle (found : List Cursor) :
    asked (found.map fun c => .settle (some c)) = [] ∧
      ∀ answers, outcomesAlong (found.map fun c => .settle (some c)) answers =
        found.map some := by
  induction found with
  | nil => exact ⟨rfl, fun _ => rfl⟩
  | cons c found ih =>
    exact ⟨ih.1, fun answers => by rw [List.map_cons, outcomesAlong, ih.2, List.map_cons]⟩

/-- Requests to which every answer counts. -/
theorem along_ask (s : Cursor) (inners : List Cursor) :
    asked (inners.map fun inner => .ask s inner.bindingName true) =
        inners.map (fun inner => (s, inner.bindingName)) ∧
      ∀ answers : List (Option Cursor), answers.length = inners.length →
        outcomesAlong (inners.map fun inner => .ask s inner.bindingName true) answers =
          answers := by
  induction inners with
  | nil => exact ⟨rfl, fun answers each => by rw [List.eq_nil_of_length_eq_zero each]; rfl⟩
  | cons inner inners ih =>
    refine ⟨by rw [List.map_cons, asked_ask, ih.1, List.map_cons], fun answers each => ?_⟩
    obtain ⟨answer, answers, rfl⟩ := List.exists_cons_of_length_eq_add_one each
    rw [List.map_cons, outcomesAlong, if_pos rfl, ih.2 answers (by simpa using each)]
    rfl

/-- The items of a statement make its requests, and come to its results. -/
theorem items_eq (name : String) (s : Cursor) :
    asked (items name s) = requestsOf name s ∧
      ∀ answers : List (Option Cursor), answers.length = (requestsOf name s).length →
        outcomesAlong (items name s) answers = outcomesOf name s answers := by
  unfold items requestsOf outcomesOf
  match form? s with
  | none => exact ⟨rfl, fun _ _ => rfl⟩
  | some .declaration =>
    dsimp only
    cases matchDeclaration s name with
    | none => exact ⟨rfl, fun _ _ => rfl⟩
    | some found => exact ⟨rfl, fun _ _ => rfl⟩
  | some .specifiers =>
    dsimp only
    rw [specifierItems_eq]
    by_cases sourced : (s.field? "source").isSome
    · simp only [sourced, if_true, List.length_map]
      exact along_ask s (localNames name s)
    · simp only [sourced, Bool.false_eq_true, if_false]
      exact ⟨(along_settle _).1, fun answers _ => (along_settle _).2 answers⟩
  | some .default =>
    dsimp only
    split
    · exact ⟨rfl, fun _ _ => rfl⟩
    · exact ⟨rfl, fun _ _ => rfl⟩
  | some .wildcard =>
    refine ⟨rfl, fun answers each => ?_⟩
    obtain ⟨answer, rfl⟩ := List.length_eq_one_iff.1 each
    simp [outcomesAlong]
  | some .namespaced =>
    exact ⟨(along_settle _).1, fun answers _ => (along_settle _).2 answers⟩

/-- The agenda of a module makes its requests, and comes to its results. -/
theorem agenda_eq (program : Cursor) (name : String) :
    asked (agenda program name) = requests program name ∧
      ∀ answers : List (Option Cursor), answers.length = (requests program name).length →
        outcomesAlong (agenda program name) answers =
          outcomes name (statements program) answers := by
  rw [agenda, requests]
  induction statements program with
  | nil => exact ⟨rfl, fun _ _ => rfl⟩
  | cons s later ih =>
    obtain ⟨own, results⟩ := items_eq name s
    rw [List.flatMap_cons, List.flatMap_cons, asked_append, own, ih.1]
    refine ⟨rfl, fun answers each => ?_⟩
    rw [List.length_append] at each
    rw [outcomesAlong_append, own, outcomes, results _ (by rw [List.length_take]; omega),
      ih.2 _ (by rw [List.length_drop]; omega)]

end ExportTrail.Export
