import ExportTrail.Proofs.World.Canonical

/-!
# Worlds without links

Where there are no links a walk leads where the text says (`walk_linkless`), and the canonical path
of a path is the one that its text writes (`canonical_linkless`).
-/

namespace ExportTrail.World

variable {w : World} {cwd : Location}

/-- Whether a world holds no links. -/
def Linkless (w : World) : Prop := ∀ l target, w.lookup l ≠ some (.link target)

/-- It is enough that the table has none. -/
theorem Linkless.of_entries (h : ∀ entry ∈ w.entries, ∀ target, entry.2 ≠ .link target) :
    w.Linkless := by
  intro l target found
  cases l with
  | nil => cases found
  | cons name dir => exact h _ (mem_entries_of_lookup found) target rfl

/-! ## Walks -/

/-- A name is only looked up in a directory. -/
theorem lookup_of_walk {links : Nat} {here : Location} {name : String} {rest : List String}
    {a : Arrival} (named : IsName name) (h : w.walk links here (name :: rest) = .ok a) :
    w.lookup here = some .directory := by
  obtain ⟨nonempty, undotted, down⟩ := named
  have found : ∃ e, w.lookup ([name] ++ here) = some e := by
    rw [walk, if_neg (not_or.2 ⟨nonempty, undotted⟩), if_neg down] at h
    split at h
    · cases h
    · split at h
      · cases h
      all_goals exact ⟨_, by assumption⟩
  obtain ⟨e, found⟩ := found
  exact lookup_above found (List.cons_ne_nil _ _)

section

variable (linkless : w.Linkless)
include linkless

/-- A walk leads where the text says, if it leads anywhere. -/
theorem walk_linkless {links : Nat} {here : Location} {todo : List String} {a : Arrival}
    (h : w.walk links here todo = .ok a) : a.location = textual here todo := by
  fun_induction walk w links here todo with
  | case1 links here => cases h; rfl
  | case2 links here part rest undone ih => rw [ih h, textual_cons, textualStep, if_pos undone]
  | case3 links here rest undone ih =>
    rw [ih h, textual_cons, textualStep, if_neg undone, if_pos rfl]
  | case4 | case5 | case8 => cases h
  | case6 links here part rest undone down _ _ ih =>
    rw [ih h, textual_cons, textualStep, if_neg undone, if_neg down]
  | case7 links here part undone down =>
    cases h
    rw [textual_cons, textualStep, if_neg undone, if_neg down]
    rfl
  | case9 _ _ _ _ _ _ target found | case10 _ _ _ _ _ _ target found =>
    exact absurd found (linkless _ target)

/-- Walks do not fail on account of links. -/
theorem walk_fault {links : Nat} {here : Location} {todo : List String} {fault : FileFault}
    (h : w.walk links here todo = .error fault) :
    fault ≠ .tooManyLinks ∧ fault ≠ .nulCharacter := by
  fun_induction walk w links here todo with
  | case1 | case7 => cases h
  | case2 _ _ _ _ _ ih | case3 _ _ _ _ ih | case6 _ _ _ _ _ _ _ _ ih => exact ih h
  | case4 | case5 | case8 => cases h; exact ⟨by decide, by decide⟩
  | case9 _ _ _ _ _ _ target found | case10 _ _ _ _ _ _ target found =>
    exact absurd found (linkless _ target)

/-- A walk leads through where its first parts lead. -/
theorem walk_append {links : Nat} {here : Location} {parts more : List String} {a : Arrival}
    (onward : more ≠ []) (h : w.walk links here (parts ++ more) = .ok a) :
    w.walk links (textual here parts) more = .ok a := by
  induction parts generalizing here with
  | nil => exact h
  | cons part parts ih =>
    rw [List.cons_append, walk] at h
    rw [textual_cons, textualStep]
    split at h
    · next undone =>
      rw [if_pos undone]
      exact ih h
    · next undone =>
      rw [if_neg undone]
      split at h
      · next down =>
        rw [if_pos down]
        exact ih h
      · next down =>
        rw [if_neg down]
        split at h
        · cases h
        · split at h
          · cases h
          · exact ih h
          · split at h
            · next last => exact absurd (List.append_eq_nil_iff.1 last).2 onward
            · cases h
          · next target found => exact absurd found (linkless _ target)

end

/-- A path that leads somewhere has no NUL, and a walk leads there. -/
theorem walk_of_follow {p : Path} {l : Location} (h : w.follow cwd p = .ok l) :
    p.hasNul = false ∧ ∃ a, w.walk maxLinks (start cwd p) p.parts = .ok a ∧ a.location = l := by
  rw [follow] at h
  split at h
  · cases h
  · next clean =>
    split at h
    · cases h
    · cases walked : w.walk maxLinks (start cwd p) p.parts with
      | error fault => rw [walked] at h; cases h
      | ok a =>
        rw [walked] at h
        cases h
        exact ⟨by simpa using clean, a, rfl, rfl⟩

/-- The path of a regular file leads to it. -/
theorem follow_of_regularFile? {p : Path} {l : Location}
    (h : w.regularFile? cwd p = .ok (some l)) : w.follow cwd p = .ok l := by
  rw [regularFile?] at h
  split at h
  · cases h
  · cases h
  · split at h
    · cases h
      assumption
    · cases h

theorem follow_fault (linkless : w.Linkless) {p : Path} (clean : p.hasNul = false)
    {fault : FileFault} (h : w.follow cwd p = .error fault) :
    fault ≠ .tooManyLinks ∧ fault ≠ .nulCharacter := by
  rw [follow, clean, if_neg Bool.false_ne_true] at h
  split at h
  · cases h
    exact ⟨by decide, by decide⟩
  · cases walked : w.walk maxLinks (start cwd p) p.parts with
    | ok a => rw [walked] at h; cases h
    | error fault' =>
      rw [walked] at h
      cases h
      exact walk_fault linkless walked

/-! ## Canonical paths -/

/-- Whether all that a trail holds are names, or lead up. -/
def Trail.Plain (t : Trail) : Prop := ∀ name ∈ t.names, name ≠ "" ∧ name ≠ "."

theorem Trail.Plain.up {t : Trail} (plain : t.Plain) : t.up.Plain := by
  obtain ⟨anchor, names⟩ := t
  rw [Trail.up]
  split
  · split
    · exact List.forall_mem_singleton.2 (by decide)
    · exact plain
  · exact List.forall_mem_cons.2 ⟨by decide, plain⟩
  · next name names _ same =>
    obtain rfl : _ = name :: names := same
    exact fun n mem => plain n (List.mem_cons_of_mem _ mem)

theorem Trail.flatten_down {t : Trail} {part : String} (h : IsName part) :
    (t.down part).flatten cwd = part :: t.flatten cwd := by
  rw [flatten_eq, flatten_eq, Trail.down, List.reverse_cons, textual_append, textual_cons,
    textual_nil, textualStep_of_isName h]

theorem Trail.flatten_up {t : Trail} (plain : t.Plain) :
    t.up.flatten cwd = (t.flatten cwd).tail := by
  obtain ⟨anchor, names⟩ := t
  rw [Trail.up]
  split
  · next same =>
    obtain rfl : names = [] := same
    split
    · next here =>
      obtain rfl : anchor = .here := here
      rfl
    · next away =>
      have away : anchor ≠ .here := away
      rw [flatten_eq, if_neg away]
      rfl
  · next names' same =>
    obtain rfl : names = ".." :: names' := same
    rw [flatten_eq, flatten_eq, List.reverse_cons, textual_append]
    rfl
  · next name names' inner same =>
    obtain rfl : names = name :: names' := same
    have named : IsName name := by
      obtain ⟨nonempty, undotted⟩ := plain name List.mem_cons_self
      exact ⟨nonempty, undotted, inner⟩
    rw [show Trail.mk anchor (name :: names') = Trail.down ⟨anchor, names'⟩ name from rfl,
      flatten_down named]
    rfl

theorem Trail.anchor_up (t : Trail) : t.up.anchor = t.anchor := by
  rw [Trail.up]
  split
  · split
    · next here => exact here.symm
    · rfl
  · rfl
  · rfl

section

variable (linkless : w.Linkless)
include linkless

/-- What is read of a path without NULs is what its text writes. -/
theorem canonicalFrom_linkless (links : Nat) (seen : List (Trail × Option Trail)) {t : Trail}
    (plain : t.Plain) {todo : List String} (clean : ∀ part ∈ todo, Path.isNulPart part = false) :
    ∃ t', w.canonicalFrom cwd links seen t todo [] = .ok t' ∧ t'.anchor = t.anchor ∧
      t'.flatten cwd = textual (t.flatten cwd) todo := by
  induction todo generalizing t with
  | nil => exact ⟨t, by rw [canonicalFrom], rfl, rfl⟩
  | cons part rest ih =>
    obtain ⟨first, clean⟩ := List.forall_mem_cons.1 clean
    rw [canonicalFrom, textual_cons, textualStep]
    split
    · exact ih plain clean
    · next named =>
      split
      · obtain ⟨t', read, anchor, flat⟩ := ih plain.up clean
        exact ⟨t', read, anchor.trans t.anchor_up, by rw [flat, Trail.flatten_up plain]⟩
      · next down =>
        obtain ⟨nonempty, undotted⟩ := not_or.1 named
        have unlinked : w.linkAt? ((t.down part).location cwd) = none := by
          rw [linkAt?]
          split
          · next target found => exact absurd found (linkless _ target)
          · rfl
        rw [first, if_neg Bool.false_ne_true]
        dsimp only
        rw [unlinked]
        have plain : (t.down part).Plain :=
          List.forall_mem_cons.2 ⟨⟨nonempty, undotted⟩, plain⟩
        obtain ⟨t', read, anchor, flat⟩ := ih plain clean
        exact ⟨t', read, anchor, by rw [flat, Trail.flatten_down ⟨nonempty, undotted, down⟩]⟩

/-- The canonical path of a path is the one that its text writes. -/
theorem canonical_linkless {p : Path} (clean : p.hasNul = false)
    (clean' : (Location.toPath (textual (start cwd p) p.parts)).hasNul = false) :
    w.canonical cwd p = .ok (Location.toPath (textual (start cwd p) p.parts)) := by
  let origin : Trail := ⟨if p.isAbsolute then .root else .here, []⟩
  have flat_origin : origin.flatten cwd = start cwd p := by
    obtain ⟨anchor, parts⟩ := p
    cases anchor <;> rfl
  have plain : origin.Plain := by simp [origin, Trail.Plain]
  have unflawed : ∀ part ∈ p.parts, Path.isNulPart part = false := by
    simpa [Path.hasNul] using clean
  obtain ⟨t, read, anchor, flat⟩ :
      ∃ t, w.canonicalFrom cwd (w.linkBound cwd) [] origin p.parts [] = .ok t ∧
        t.anchor = origin.anchor ∧ t.flatten cwd = textual (origin.flatten cwd) p.parts :=
    canonicalFrom_linkless linkless (w.linkBound cwd) [] plain unflawed
  have path : t.toPath cwd = Location.toPath (textual (start cwd p) p.parts) := by
    have root : (if t.anchor = .here then Anchor.root else t.anchor) = .root := by
      rw [anchor]
      simp only [origin]
      split <;> simp_all
    rw [Trail.toPath, root, flat, flat_origin]
    rfl
  rw [canonical]
  dsimp only
  rw [read]
  dsimp only
  rw [path]
  split
  · next ends => exact absurd rfl (follow_fault linkless clean' ends).1
  · next ends => exact absurd rfl (follow_fault linkless clean' ends).2
  · rfl

end

end ExportTrail.World
