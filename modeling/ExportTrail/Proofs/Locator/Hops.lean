import ExportTrail.Locator
import Mathlib

/-!
# Parent hops in specifiers

A parent hop is the text `../` in a specifier. Confining a specifier drops its hops from left to
right, each found behind the one before it. As a hop ends in a slash, none of them reaches over the
end of a text that ends in one: such a text and what follows it are read one after the other
(`dropParents_append`), so that a hop between them counts neither for the text that is left nor for
the file that it leads to.

What is left of a specifier may have hops in it again, made of the text on both sides of one that
was dropped. Confining it once more drops them and makes it shorter, so that only a text without
hops stays as it is (`confineChars_confineChars_iff`). The main statement on both is `confine_hops`.
-/

namespace ExportTrail

namespace Specifier

/-- A step to the parent directory, as a specifier writes it. -/
def parentHop : List Char := ['.', '.', '/']

/-- Whether a text is empty or ends in a slash. -/
def EndsSegment (t : List Char) : Prop := ∀ c ∈ t.getLast?, c = '/'

/-! ## Dropping hops -/

@[simp] theorem dropParents_nil : dropParents [] = [] := rfl

@[simp] theorem dropParents_parentHop (s : List Char) :
    dropParents (parentHop ++ s) = dropParents s := by
  simp [parentHop, dropParents]

/-- A character with which no hop starts is kept. -/
theorem dropParents_cons {c : Char} {s : List Char} (h : ¬ parentHop <+: c :: s) :
    dropParents (c :: s) = c :: dropParents s := by
  rw [dropParents]
  rintro s rfl rfl
  exact h (List.prefix_append parentHop s)

/-- A text starts with a hop, or with a character that is kept. -/
theorem dropParents_induction {P : List Char → Prop} (nil : P [])
    (hop : ∀ s, P s → P (parentHop ++ s))
    (kept : ∀ c s, ¬ parentHop <+: c :: s → P s → P (c :: s)) (s : List Char) : P s := by
  fun_induction dropParents s with
  | case1 => exact nil
  | case2 s ih => exact hop s ih
  | case3 c s other ih =>
    refine kept c s ?_ ih
    rintro ⟨rest, eq⟩
    obtain ⟨rfl, rfl⟩ := List.cons.inj eq
    exact other rest rfl rfl

theorem EndsSegment.of_append {t u : List Char} (h : EndsSegment (t ++ u)) : EndsSegment u := by
  intro c mem
  refine h c ?_
  rw [List.getLast?_append, Option.mem_def.1 mem]
  rfl

/-- A text that ends in a slash is no beginning of a hop, short of the whole. -/
theorem parentHop_prefix_of_append {t s : List Char} (nonempty : t ≠ []) (h : EndsSegment t)
    (starts : parentHop <+: t ++ s) : parentHop <+: t := by
  rcases List.prefix_or_prefix_of_prefix starts (List.prefix_append t s) with within | beyond
  · exact within
  · simp only [parentHop, List.prefix_cons_iff, List.prefix_nil] at beyond
    rcases beyond with rfl | ⟨t, rfl, rfl | ⟨t, rfl, rfl | ⟨t, rfl, rfl⟩⟩⟩
    · exact absurd rfl nonempty
    · exact absurd (h '.' rfl) (by decide)
    · exact absurd (h '.' rfl) (by decide)
    · exact List.prefix_refl parentHop

/-- No hop is found across the end of a text that ends in a slash. -/
theorem dropParents_append {t : List Char} (h : EndsSegment t) (s : List Char) :
    dropParents (t ++ s) = dropParents t ++ dropParents s := by
  induction t using dropParents_induction with
  | nil => rfl
  | hop t ih =>
    rw [List.append_assoc, dropParents_parentHop, dropParents_parentHop, ih h.of_append]
  | kept c t other ih =>
    have apart : ¬ parentHop <+: c :: (t ++ s) := fun starts =>
      other (parentHop_prefix_of_append (List.cons_ne_nil c t) h starts)
    have inner : EndsSegment t := EndsSegment.of_append (t := [c]) h
    rw [List.cons_append, dropParents_cons apart, dropParents_cons other, ih inner,
      List.cons_append]

/-! ## Confining twice -/

/-- Whether a text has a hop in it. -/
theorem parentHop_infix_iff (s : String) :
    parentHop <:+: s.toList ↔ ∃ a b, s = a ++ "../" ++ b := by
  constructor
  · rintro ⟨a, b, eq⟩
    refine ⟨String.ofList a, String.ofList b, ?_⟩
    rw [← String.toList_inj, ← eq]
    simp [parentHop]
  · rintro ⟨a, b, rfl⟩
    exact ⟨a.toList, b.toList, by simp [parentHop]⟩

/-- A text without hops is left as it is. -/
theorem dropParents_eq_self {s : List Char} (h : ¬ parentHop <:+: s) : dropParents s = s := by
  induction s using dropParents_induction with
  | nil => rfl
  | hop s ih => exact absurd (List.prefix_append parentHop s).isInfix h
  | kept c s other ih =>
    rw [dropParents_cons other, ih fun inner => h (List.infix_cons inner)]

theorem length_dropParents_le (s : List Char) : (dropParents s).length ≤ s.length := by
  induction s using dropParents_induction with
  | nil => exact Nat.le_refl _
  | hop s ih =>
    rw [dropParents_parentHop, List.length_append]
    omega
  | kept c s other ih =>
    rw [dropParents_cons other, List.length_cons, List.length_cons]
    omega

/-- From a text with a hop, one hop at least is dropped. -/
theorem length_dropParents_lt {s : List Char} (h : parentHop <:+: s) :
    (dropParents s).length + parentHop.length ≤ s.length := by
  induction s using dropParents_induction with
  | nil => exact absurd (List.eq_nil_of_infix_nil h) (by decide)
  | hop s ih =>
    have le := length_dropParents_le s
    rw [dropParents_parentHop, List.length_append]
    omega
  | kept c s other ih =>
    rcases List.infix_cons_iff.1 h with starts | inner
    · exact absurd starts other
    · have lt := ih inner
      rw [dropParents_cons other, List.length_cons, List.length_cons]
      omega

/-- What marks a text as relative to the root. -/
def here : List Char := ['.', '/']

/-- A text that is marked so is left as it is, and any other one is marked. -/
theorem anchorHere_cases (s : List Char) :
    here <+: s ∧ anchorHere s = s ∨ anchorHere s = here ++ s := by
  unfold anchorHere
  split
  · next rest => exact .inl ⟨List.prefix_append here rest, rfl⟩
  · exact .inr rfl

theorem anchorHere_eq_self {s : List Char} (h : here <+: s) : anchorHere s = s := by
  obtain ⟨rest, rfl⟩ := h
  rfl

theorem length_anchorHere_le (s : List Char) :
    (anchorHere s).length ≤ s.length + here.length := by
  rcases anchorHere_cases s with ⟨-, same⟩ | marked
  · rw [same]
    exact Nat.le_add_right _ _
  · rw [marked, List.length_append]
    exact Nat.le_of_eq (Nat.add_comm _ _)

theorem here_prefix_confineChars (s : List Char) : here <+: confineChars s := by
  rw [confineChars]
  rcases anchorHere_cases (dropParents s) with ⟨already, same⟩ | marked
  · rwa [same]
  · rw [marked]
    exact List.prefix_append here _

/-- Confining a text twice is the same as confining it once if and only if no hop is left. -/
theorem confineChars_confineChars_iff (s : List Char) :
    confineChars (confineChars s) = confineChars s ↔ ¬ parentHop <:+: confineChars s := by
  constructor
  · intro stable hop
    have shorter := length_dropParents_lt hop
    have anchored := length_anchorHere_le (dropParents (confineChars s))
    have same := congrArg List.length stable
    rw [confineChars] at same
    simp only [parentHop, here, List.length_cons, List.length_nil] at shorter anchored
    omega
  · intro free
    rw [confineChars, dropParents_eq_self free, anchorHere_eq_self (here_prefix_confineChars s)]

/-- A hop at the start, or after a slash, does not count. -/
theorem confineChars_parentHop {t : List Char} (h : EndsSegment t) (s : List Char) :
    confineChars (t ++ parentHop ++ s) = confineChars (t ++ s) := by
  rw [confineChars, confineChars, List.append_assoc, dropParents_append h, dropParents_parentHop,
    dropParents_append h]

end Specifier

namespace Locator

/-- How locating two specifiers ends alike: a file is found, the same for both; there is none for
either, and each is reported under its own spelling; or the same failure stops the search. -/
inductive SameEnd (a b base : String) : Except Failure Path → Except Failure Path → Prop
  | found (path : Path) : SameEnd a b base (.ok path) (.ok path)
  | missing : SameEnd a b base (.error (.unresolvable a (some base)))
      (.error (.unresolvable b (some base)))
  | stopped (e : Failure) : SameEnd a b base (.error e) (.error e)

/-- Whether locating two specifiers below a directory ends alike, after the same events. -/
structure LocatesAlike (l : Locator) (ws : Workspace) (a b base : String) : Prop where
  outcome : SameEnd a b base (l.locate ws a base).outcome (l.locate ws b base).outcome
  events : (l.locate ws a base).events = (l.locate ws b base).events

/-- Specifiers that are confined to the same text are located alike. -/
theorem locatesAlike_of_confine_eq (l : Locator) (ws : Workspace) {a b : String} (base : String)
    (same : Specifier.confine a = Specifier.confine b) (followed : l.isIgnored a = false)
    (followed' : l.isIgnored b = false) : LocatesAlike l ws a b base := by
  have found : l.find? ws a (Path.ofString base) = l.find? ws b (Path.ofString base) := by
    simp only [find?, followed, followed', candidate, same]
  have ends : SameEnd a b base (l.locate ws a base).outcome (l.locate ws b base).outcome ∧
      (l.locate ws a base).events = (l.locate ws b base).events := by
    rw [locate, locate, found]
    split
    · next e _ => exact ⟨.stopped e, rfl⟩
    · exact ⟨.missing, rfl⟩
    · next path _ => exact ⟨.found path, rfl⟩
  exact ⟨ends.1, ends.2⟩

end Locator

namespace Specifier

open Locator

/-- **A hop at the start of a specifier or after a slash does not count, and confining settles once
no hop is left.** The text that is left of the specifier is the same without the hop, and if neither
spelling is ignored, both lead to the same file in every world or fail in the same way. Whatever is
left of a specifier starts with `./`, and it stays as it is when it is confined again if and only if
it has no hop in it. -/
theorem confine_hops :
    (∀ t s : String, (t = "" ∨ ∃ u, t = u ++ "/") →
      confine (t ++ "../" ++ s) = confine (t ++ s) ∧
      ∀ (l : Locator) (ws : Workspace) (base : String),
        l.isIgnored (t ++ "../" ++ s) = false → l.isIgnored (t ++ s) = false →
          LocatesAlike l ws (t ++ "../" ++ s) (t ++ s) base) ∧
    ∀ s : String,
      (∃ rest, confine s = "./" ++ rest) ∧
      (confine (confine s) = confine s ↔ ¬ ∃ a b, confine s = a ++ "../" ++ b) := by
  constructor
  · intro t s segment
    have ends : EndsSegment t.toList := by
      rcases segment with rfl | ⟨u, rfl⟩
      · rintro c ⟨⟩
      · simp [EndsSegment]
    have same : confine (t ++ "../" ++ s) = confine (t ++ s) := by
      have chars := confineChars_parentHop ends s.toList
      simp only [confine, String.toList_append]
      exact congrArg String.ofList chars
    exact ⟨same, fun l ws base => l.locatesAlike_of_confine_eq ws base same⟩
  · intro s
    refine ⟨?_, ?_⟩
    · obtain ⟨rest, eq⟩ := here_prefix_confineChars s.toList
      refine ⟨String.ofList rest, ?_⟩
      rw [confine, ← eq, String.ofList_append]
      rfl
    · rw [← parentHop_infix_iff, ← String.toList_inj, confine, String.toList_ofList, confine,
        String.toList_ofList]
      exact confineChars_confineChars_iff s.toList

/-- Dropping the one hop that is there leaves another one. -/
example : confine "....//s" = "./../s" ∧ confine "./../s" = "./s" := by cbv

/-- A directory with one file in it. -/
def Hop.workspace : Workspace where
  world := ⟨[(["d"], .directory), (["s.js", "d"], .file [])]⟩
  cwd := []
  grammars _ _ := ⟨⟨"program", true, false, false, 0, 0, [], []⟩, false⟩

/-- A hop after the directory does not count: both spellings lead to the file in it. -/
theorem confine_hops_file :
    "d/" = "d" ++ "/" ∧
      Locator.default.isIgnored ("d/" ++ "../" ++ "s") = false ∧
      Locator.default.isIgnored ("d/" ++ "s") = false ∧
      confine ("d/" ++ "../" ++ "s") = confine ("d/" ++ "s") ∧
      LocatesAlike Locator.default Hop.workspace ("d/" ++ "../" ++ "s") ("d/" ++ "s") "/" ∧
      (Locator.default.locate Hop.workspace ("d/" ++ "s") "/").outcome =
        .ok ⟨.root, ["d", "s.js"]⟩ := by
  have segment : "d/" = "d" ++ "/" := by decide
  have followed : Locator.default.isIgnored ("d/" ++ "../" ++ "s") = false := by decide
  have followed' : Locator.default.isIgnored ("d/" ++ "s") = false := by decide
  have located : (Locator.default.locate Hop.workspace ("d/" ++ "s") "/").outcome =
      .ok ⟨.root, ["d", "s.js"]⟩ := by
    cbv
  obtain ⟨same, alike⟩ := confine_hops.1 "d/" "s" (.inr ⟨"d", segment⟩)
  have alike := alike Locator.default Hop.workspace "/" followed followed'
  exact ⟨segment, followed, followed', same, alike, located⟩

end Specifier

end ExportTrail
