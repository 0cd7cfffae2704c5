import ExportTrail.World.Canonical

/-!
# Canonical paths of entries

The path of a location at which something other than a link stands is canonical as it is
(`canonical_toPath`): all that is above the entry are directories, so that no link is met on the
way. This takes for granted that the names of a world are such as can be looked up (`World.Named`).

`textual` is where parts lead if nothing is looked up at all, each name one level further down and
`..` one level up.
-/

namespace ExportTrail.World

variable {w : World} {cwd : Location}

/-! ## Names -/

/-- Whether a part is looked up as a name: it is not empty and no dot or pair of dots. -/
def IsName (part : String) : Prop := part ≠ "" ∧ part ≠ "." ∧ part ≠ ".."

/-- Whether all that a world holds has a name, and one without a NUL. -/
def Named (w : World) : Prop :=
  ∀ name dir, (w.lookup (name :: dir)).isSome → IsName name ∧ Path.isNulPart name = false

/-- What is above an entry is a directory. -/
theorem lookup_above {inner dir : Location} {e : Entry} (h : w.lookup (inner ++ dir) = some e)
    (below : inner ≠ []) : w.lookup dir = some .directory := by
  have parent {name : String} {l : Location} {e : Entry} (h : w.lookup (name :: l) = some e) :
      w.lookup l = some .directory := by
    rw [lookup] at h
    split at h
    · assumption
    · cases h
  induction inner generalizing e with
  | nil => exact absurd rfl below
  | cons name inner ih =>
    have h := parent h
    cases inner with
    | nil => exact h
    | cons _ _ => exact ih h (List.cons_ne_nil _ _)

/-- What is below the root is in the table. -/
theorem mem_entries_of_lookup {name : String} {dir : Location} {e : Entry}
    (h : w.lookup (name :: dir) = some e) : (name :: dir, e) ∈ w.entries := by
  rw [lookup] at h
  split at h
  · obtain ⟨l₁, l₂, table, -⟩ := List.lookup_eq_some_iff.1 h
    rw [table]
    exact List.mem_append_right _ List.mem_cons_self
  · cases h

/-- It is enough that the table has names. -/
theorem Named.of_entries
    (h : ∀ entry ∈ w.entries, ∀ name ∈ entry.1, IsName name ∧ Path.isNulPart name = false) :
    w.Named := by
  intro name dir found
  obtain ⟨e, found⟩ := Option.isSome_iff_exists.1 found
  exact h _ (mem_entries_of_lookup found) name List.mem_cons_self

/-- All names on the way to an entry are names. -/
theorem Named.of_mem (named : w.Named) {l : Location} {e : Entry} (h : w.lookup l = some e)
    {name : String} (mem : name ∈ l) : IsName name ∧ Path.isNulPart name = false := by
  obtain ⟨inner, dir, rfl⟩ := List.append_of_mem mem
  cases inner with
  | nil => exact named name dir (by rw [List.nil_append] at h; rw [h]; rfl)
  | cons _ _ =>
    have above : w.lookup (name :: dir) = some .directory :=
      lookup_above h (List.cons_ne_nil _ _)
    exact named name dir (by rw [above]; rfl)

/-- The path of an entry holds no NUL. -/
theorem Named.hasNul_toPath (named : w.Named) {l : Location} {e : Entry}
    (h : w.lookup l = some e) : l.toPath.hasNul = false := by
  rw [Path.hasNul, List.any_eq_false]
  intro name mem
  rw [(named.of_mem h (List.mem_reverse.1 mem)).2]
  exact Bool.false_ne_true

/-! ## Where parts lead without links -/

/-- Where a part leads from a location if nothing is looked up. -/
def textualStep (here : Location) (part : String) : Location :=
  if part = "" ∨ part = "." then here else if part = ".." then here.tail else part :: here

/-- Where parts lead from a location if nothing is looked up. -/
def textual (here : Location) (parts : List String) : Location := parts.foldl textualStep here

@[simp] theorem textual_nil (here : Location) : textual here [] = here := rfl

@[simp] theorem textual_cons (here : Location) (part : String) (parts : List String) :
    textual here (part :: parts) = textual (textualStep here part) parts := rfl

theorem textual_append (here : Location) (parts parts' : List String) :
    textual here (parts ++ parts') = textual (textual here parts) parts' := List.foldl_append

theorem textualStep_of_isName {part : String} (h : IsName part) (here : Location) :
    textualStep here part = part :: here := by
  obtain ⟨nonempty, undotted, down⟩ := h
  rw [textualStep, if_neg (not_or.2 ⟨nonempty, undotted⟩), if_neg down]

/-- Names lead down, one after the other. -/
theorem textual_of_isName {parts : List String} (h : ∀ part ∈ parts, IsName part)
    (here : Location) : textual here parts = parts.reverse ++ here := by
  induction parts generalizing here with
  | nil => rfl
  | cons part parts ih =>
    obtain ⟨first, rest⟩ := List.forall_mem_cons.1 h
    rw [textual_cons, textualStep_of_isName first, ih rest, List.reverse_cons, List.append_assoc]
    rfl

theorem Trail.flatten_eq (t : Trail) :
    t.flatten cwd = textual (if t.anchor = .here then cwd else []) t.names.reverse := rfl

/-! ## Paths of entries -/

section

variable {e : Entry} (named : w.Named) (solid : ∀ target, e ≠ .link target)
include named solid

/-- Reading the path of an entry meets no link. -/
theorem canonicalFrom_of_lookup {links : Nat} {seen : List (Trail × Option Trail)}
    {names todo : List String} (h : w.lookup (todo.reverse ++ names) = some e) :
    w.canonicalFrom cwd links seen ⟨.root, names⟩ todo [] = .ok ⟨.root, todo.reverse ++ names⟩ := by
  induction todo generalizing names with
  | nil => rw [canonicalFrom]; rfl
  | cons part rest ih =>
    rw [List.reverse_cons, List.append_assoc] at h ⊢
    obtain ⟨⟨nonempty, undotted, down⟩, clean⟩ := named.of_mem h (by simp : part ∈ _)
    have unlinked : w.linkAt? (part :: names) = none := by
      rw [linkAt?]
      cases rest with
      | nil =>
        rw [show w.lookup (part :: names) = some e from h]
        cases e with
        | link target => exact absurd rfl (solid target)
        | file content => rfl
        | directory => rfl
      | cons _ _ =>
        rw [show w.lookup (part :: names) = some .directory from lookup_above h (by simp)]
    rw [canonicalFrom, if_neg (not_or.2 ⟨nonempty, undotted⟩), if_neg down, clean,
      if_neg Bool.false_ne_true]
    have here : (Trail.down ⟨.root, names⟩ part).location cwd = part :: names := rfl
    dsimp only
    rw [here, unlinked]
    exact ih h

/-- Walking the path of an entry comes to the entry, unless a name is too long. -/
theorem walk_of_lookup {links : Nat} {here : Location} {todo : List String}
    (h : w.lookup (todo.reverse ++ here) = some e) :
    w.walk links here todo = .error .nameTooLong ∨
      w.walk links here todo = .ok ⟨todo.reverse ++ here, links⟩ := by
  induction todo generalizing here with
  | nil => exact .inr (by rw [walk]; rfl)
  | cons part rest ih =>
    rw [List.reverse_cons, List.append_assoc] at h ⊢
    obtain ⟨⟨nonempty, undotted, down⟩, -⟩ := named.of_mem h (by simp : part ∈ _)
    rw [walk, if_neg (not_or.2 ⟨nonempty, undotted⟩), if_neg down]
    split
    · exact .inl rfl
    · cases rest with
      | nil =>
        rw [show w.lookup (part :: here) = some e from h]
        cases e with
        | link target => exact absurd rfl (solid target)
        | file content => exact .inr rfl
        | directory => exact .inr (by dsimp only; rw [walk]; rfl)
      | cons _ _ =>
        rw [show w.lookup (part :: here) = some .directory from lookup_above h (by simp)]
        exact ih h

/-- The path of an entry leads to it, unless it or a name is too long. -/
theorem follow_toPath {l : Location} (h : w.lookup l = some e) :
    w.follow cwd l.toPath = .error .nameTooLong ∨ w.follow cwd l.toPath = .ok l := by
  have here : w.lookup (l.reverse.reverse ++ []) = some e := by
    rwa [List.reverse_reverse, List.append_nil]
  rw [follow, named.hasNul_toPath h, if_neg Bool.false_ne_true]
  split
  · exact .inl rfl
  · show (w.walk maxLinks [] l.reverse).map Arrival.location = _ ∨
      (w.walk maxLinks [] l.reverse).map Arrival.location = _
    rcases walk_of_lookup named solid here with long | ends
    · exact .inl (by rw [long]; rfl)
    · exact .inr (by rw [ends, List.reverse_reverse, List.append_nil]; rfl)

/-- The path of an entry is canonical. -/
theorem canonical_toPath {l : Location} (h : w.lookup l = some e) :
    w.canonical cwd l.toPath = .ok l.toPath := by
  have read : w.canonicalFrom cwd (w.linkBound cwd) [] ⟨.root, []⟩ l.reverse [] =
      .ok ⟨.root, l⟩ := by
    rw [canonicalFrom_of_lookup named solid (by rwa [List.reverse_reverse, List.append_nil]),
      List.reverse_reverse, List.append_nil]
  have path : Trail.toPath cwd ⟨.root, l⟩ = l.toPath := by
    show Path.mk .root (textual [] l.reverse).reverse = _
    rw [textual_of_isName fun part mem => (named.of_mem h (List.mem_reverse.1 mem)).1,
      List.append_nil, List.reverse_reverse]
    rfl
  rw [canonical]
  dsimp only
  rw [if_pos (by rfl), show l.toPath.parts = l.reverse from rfl, read]
  dsimp only
  rw [path]
  have ends : w.follow cwd l.toPath = .error .nameTooLong ∨ w.follow cwd l.toPath = .ok l :=
    follow_toPath named solid h
  rcases ends with long | ends
  · rw [long]
  · rw [ends]

end

end ExportTrail.World
