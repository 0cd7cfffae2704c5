import ExportTrail.Proofs.Parse.Inside
import Mathlib.Data.List.Infix

/-!
# Navigation

What is handed out of a tree is reached by moves (`Move`): chains of fields, and picks among the
named children, all of them or those of one kind. A move goes along links (`Link`), each from a
cursor to a cursor on a child.

* `navigate?_eq_trace?`: moves lead where their links lead, one after the other.
* `ancestors_of_trace?`: the ancestors of a cursor that is reached are the cursors that the parts of
  the way lead to, the longest part first, and then those of the cursor where the way starts.
* `options_of_navigation`: so the options of a program are found from all that is reached from it.
-/

namespace ExportTrail

namespace Cursor

/-- One link, from a cursor to a child. -/
inductive Link
  /-- The child that a field names. -/
  | field (name : String)
  /-- The named child at a position, among those of one kind if a kind is given. -/
  | named (kind : Option String) (i : Nat)

/-- The named children, or those of one kind if a kind is given. -/
def offered (c : Cursor) : Option String → List Cursor
  | none => c.namedChildren
  | some kind => c.namedChildrenOf kind

/-- The cursor that a link leads to. -/
def link? (c : Cursor) : Link → Option Cursor
  | .field name => c.field? name
  | .named kind i => (c.offered kind)[i]?

/-- The cursor that links lead to, one after the other. -/
def trace? (c : Cursor) (links : List Link) : Option Cursor := links.foldlM link? c

/-- One move. -/
inductive Move
  /-- To where a chain of fields leads. -/
  | get (names : List String)
  /-- To one of the named children, or of those of one kind. -/
  | pick (kind : Option String) (i : Nat)

/-- The links that a move goes along. -/
def Move.links : Move → List Link
  | .get names => names.map .field
  | .pick kind i => [.named kind i]

/-- The cursor that a move leads to. -/
def move? (c : Cursor) : Move → Option Cursor
  | .get names => c.follow? names
  | .pick kind i => (c.offered kind)[i]?

/-- The cursor that moves lead to, one after the other. -/
def navigate? (c : Cursor) (moves : List Move) : Option Cursor := moves.foldlM move? c

/-! ## Chains of fields -/

section

variable (c : Cursor)

theorem follow?_eq_foldlM (names : List String) : c.follow? names = names.foldlM field? c := by
  induction names generalizing c with
  | nil => rfl
  | cons name names ih =>
    rw [follow?, List.foldlM_cons]
    cases c.field? name with
    | none => rfl
    | some d => exact ih d

theorem follow?_append (names names' : List String) :
    c.follow? (names ++ names') = (c.follow? names).bind (·.follow? names') := by
  simp only [follow?_eq_foldlM, List.foldlM_append]
  rfl

/-- A chain of fields leads where its fields lead one by one. -/
theorem follow?_eq_follow?_singly (names : List String) :
    c.follow? names = names.foldlM (fun d name => d.follow? [name]) c := by
  have single (d : Cursor) (name : String) : d.follow? [name] = d.field? name := by
    rw [follow?]
    cases d.field? name <;> rfl
  simp only [single, follow?_eq_foldlM]

/-- A chain of fields leads nowhere just if one of them is absent where those before it lead. -/
theorem follow?_eq_none_iff (names : List String) :
    c.follow? names = none ↔ ∃ before name after d, names = before ++ name :: after ∧
      c.follow? before = some d ∧ d.field? name = none := by
  constructor
  · intro nowhere
    induction names generalizing c with
    | nil => cases nowhere
    | cons name names ih =>
      cases first : c.field? name with
      | none => exact ⟨[], name, names, c, rfl, rfl, first⟩
      | some d =>
        rw [follow?, first] at nowhere
        obtain ⟨before, absent, after, e, rfl, there, missing⟩ := ih d nowhere
        exact ⟨name :: before, absent, after, e, rfl, by rw [follow?, first]; exact there, missing⟩
  · rintro ⟨before, name, after, d, rfl, there, missing⟩
    rw [follow?_append, there, Option.bind_some, follow?, missing]

end

/-! ## Moves and links -/

variable {c q : Cursor} {links : List Link}

theorem move?_eq_trace? (c : Cursor) (m : Move) : c.move? m = c.trace? m.links := by
  cases m with
  | get names => rw [move?, follow?_eq_foldlM, trace?, Move.links, List.foldlM_map]; rfl
  | pick kind i => simp [move?, trace?, Move.links, link?]

/-- Moves lead where their links lead. -/
theorem navigate?_eq_trace? (c : Cursor) (moves : List Move) :
    c.navigate? moves = c.trace? (moves.flatMap Move.links) := by
  induction moves generalizing c with
  | nil => rfl
  | cons m moves ih =>
    rw [navigate?, List.foldlM_cons, List.flatMap_cons, trace?, List.foldlM_append,
      move?_eq_trace? c m]
    exact congrArg _ (funext ih)

theorem offered_subset (c : Cursor) (kind : Option String) : c.offered kind ⊆ c.namedChildren := by
  cases kind with
  | none => exact List.Subset.refl _
  | some kind => exact List.filter_subset_self _

/-- A link leads to a cursor on a child, taken from the cursor that it starts at. -/
theorem link?_eq_some {l : Link} (h : c.link? l = some q) :
    ∃ n ∈ c.node.children, q = .via c n := by
  cases l with
  | field name =>
    obtain ⟨n, there, rfl⟩ := Option.map_eq_some_iff.1 h
    exact ⟨n, Node.mem_children_of_field? there, rfl⟩
  | named kind i =>
    obtain ⟨n, listed, rfl⟩ := List.mem_map.1 (c.offered_subset kind (List.mem_of_getElem? h))
    exact ⟨n, (List.mem_filter.1 listed).1, rfl⟩

theorem trace?_concat (c : Cursor) (links : List Link) (l : Link) :
    c.trace? (links ++ [l]) = (c.trace? links).bind (·.link? l) := by
  simp [trace?, List.foldlM_append]

/-- All that links lead to stands inside. -/
theorem inside_of_trace? (h : c.trace? links = some q) : Inside c q := by
  induction links using List.reverseRecOn generalizing q with
  | nil =>
    cases h
    exact .refl
  | append_singleton links l ih =>
    rw [trace?_concat] at h
    obtain ⟨p, before, last⟩ := Option.bind_eq_some_iff.1 h
    obtain ⟨n, mem, rfl⟩ := link?_eq_some last
    exact .child (ih before) mem

theorem head?_ancestors (c : Cursor) : c.ancestors.head? = some c := by
  cases c <;> rfl

/-- The ancestors of what is reached are what the parts of the way lead to, the longest first, and
then those of where the way starts. -/
theorem ancestors_of_trace? (h : c.trace? links = some q) :
    q.ancestors.map some = links.inits.reverse.map c.trace? ++ c.ancestors.tail.map some := by
  induction links using List.reverseRecOn generalizing q with
  | nil =>
    cases h
    cases c <;> rfl
  | append_singleton links l ih =>
    have whole := h
    rw [trace?_concat] at h
    obtain ⟨p, before, last⟩ := Option.bind_eq_some_iff.1 h
    obtain ⟨n, -, rfl⟩ := link?_eq_some last
    have parts : (links ++ [l]).inits.reverse = (links ++ [l]) :: links.inits.reverse := by
      simp [List.inits_append]
    rw [ancestors, List.map_cons, ih before, parts, List.map_cons, whole, List.cons_append]

/-- A way that starts at the top starts the ancestors of all that it leads to. -/
theorem getLast?_ancestors_of_inside {n : Node} {o : Option Options} (h : Inside (.top n o) q) :
    q.ancestors.getLast? = some (.top n o) := by
  induction h with
  | refl => rfl
  | child _ _ ih => rw [ancestors, List.getLast?_cons, ih, Option.getD_some]

/-- **The options of a program are found from all that is reached from it.** If the root of a tree
is the only program in it, all that moves lead to has the options attached to the root, or empty
ones if there are none. Its ancestors are what it was reached through, from itself to the root: one
for each field that was followed and each child that was picked, and the root. The same node has
empty options when it is taken from nothing. A chain of fields leads nowhere just if one is absent
where those before it lead, whatever comes after, and it leads where its fields lead one by one. -/
theorem options_of_navigation :
    (∀ n o, n.kind = programKind → n.tree.NoProgramBelow →
      ∀ moves q, (Cursor.top n o).navigate? moves = some q →
        q.options = o.getD Options.empty ∧
        q.ancestors.head? = some q ∧ q.ancestors.getLast? = some (.top n o) ∧
        q.ancestors.length = (moves.flatMap Move.links).length + 1 ∧
        q.ancestors.map some =
          (moves.flatMap Move.links).inits.reverse.map (Cursor.top n o).trace? ∧
        (q.kind ≠ programKind → ∀ o', (Cursor.top q.node o').options = Options.empty)) ∧
    ∀ (c : Cursor) names,
      (c.follow? names = none ↔ ∃ before name after d, names = before ++ name :: after ∧
        c.follow? before = some d ∧ d.field? name = none) ∧
      c.follow? names = names.foldlM (fun d name => d.follow? [name]) c := by
  refine ⟨fun n o program single moves q reached => ?_, fun c names =>
    ⟨c.follow?_eq_none_iff names, c.follow?_eq_follow?_singly names⟩⟩
  rw [navigate?_eq_trace?] at reached
  have inside : Inside (.top n o) q := inside_of_trace? reached
  have through : q.ancestors.map some =
      (moves.flatMap Move.links).inits.reverse.map (Cursor.top n o).trace? := by
    simpa [ancestors] using ancestors_of_trace? reached
  refine ⟨?_, head?_ancestors q, getLast?_ancestors_of_inside inside, ?_, through, ?_⟩
  · have same : q.options = (Cursor.top n o).options := options_of_inside single inside
    rw [same, options_top, if_pos program]
  · simpa using congrArg List.length through
  · intro other o'
    rw [options_top]
    exact if_neg other

namespace Nested

/-- The name of a function, in `export function f() {}`. -/
def name : Tree := ⟨"identifier", true, false, false, 16, 17, [], []⟩

/-- The function. -/
def function : Tree :=
  ⟨"function_declaration", true, false, false, 7, 22,
    [⟨"function", false, false, false, 7, 15, [], []⟩, name,
      ⟨"formal_parameters", true, false, false, 17, 19, [], []⟩,
      ⟨"statement_block", true, false, false, 20, 22, [], []⟩],
    [("name", 1), ("parameters", 2), ("body", 3)]⟩

/-- The export of the function. -/
def statement : Tree :=
  ⟨"export_statement", true, false, false, 0, 22,
    [⟨"export", false, false, false, 0, 6, [], []⟩, function], [("declaration", 1)]⟩

/-- A source that is the export only, with options. -/
def program : Cursor :=
  .top (.root 0 "export function f() {}".toUTF8.toList
    ⟨programKind, true, false, false, 0, 22, [statement], []⟩)
    (some ⟨none, none, none, [("team", .text "web")]⟩)

end Nested

open Nested in
/-- The name of an exported function, reached by a pick and a chain of two fields. -/
theorem options_of_navigation_nested :
    ∃ q, program.navigate? [.pick none 0, .get ["declaration", "name"]] = some q ∧
      q.kind = "identifier" ∧ q.options.extra = [("team", .text "web")] ∧
      q.ancestors.length = 4 ∧ q.ancestors.getLast? = some program ∧
      ∀ o, (Cursor.top q.node o).options = Options.empty := by
  let q : Cursor := .via (.via (.via program (program.node.childAt 0 statement))
    ((program.node.childAt 0 statement).childAt 1 function))
    (((program.node.childAt 0 statement).childAt 1 function).childAt 1 name)
  have reached : program.navigate? [.pick none 0, .get ["declaration", "name"]] = some q := rfl
  have single : program.node.tree.NoProgramBelow := by
    unfold Tree.NoProgramBelow
    decide
  obtain ⟨options, -, last, length, -, alone⟩ :=
    options_of_navigation.1 program.node _ rfl single _ q reached
  exact ⟨q, reached, rfl, by rw [options]; rfl, length, last, alone (by decide)⟩

end Cursor

end ExportTrail
