import ExportTrail.Locator.Regular
import ExportTrail.Proofs.Locator.Stems
import ExportTrail.Proofs.World.Linkless
import Mathlib

/-!
# Confinement to the root

A specifier is looked up below a root. Dropping `../` from its text does not keep it there: what is
left may still have steps up in it, it may name the root itself, next to which the extensions are
then tried, and the main entry of a manifest is taken as it is (`locate_escapes`). Where none of
this is so, because the text that is looked up has a name and never steps above its start
(`Inward`), and there are no links, whatever is located lies below the root (`locate_confined`).
-/

namespace ExportTrail

namespace Path

/-- Whether a path lies below another one. -/
def Below (root p : Path) : Prop :=
  p.anchor = root.anchor ∧ ∃ names, names ≠ [] ∧ p.parts = root.parts ++ names

theorem below_toPath (root : Location) {inner : Location} (h : inner ≠ []) :
    Below (Location.toPath root) (Location.toPath (inner ++ root)) :=
  ⟨rfl, inner.reverse, by simpa using h, List.reverse_append⟩

/-! ## Steps up and down -/

/-- The depth to which a part leads, unless it steps above the start. -/
def depthStep (depth : Nat) (part : String) : Option Nat :=
  if part = ".." then depth.ppred else some (depth + 1)

/-- How far below its start a list of parts leads that begins at a given depth, if it never steps
above the start. -/
def depth? (depth : Nat) (parts : List String) : Option Nat := parts.foldlM depthStep depth

theorem depth?_cons (depth : Nat) (part : String) (parts : List String) :
    depth? depth (part :: parts) = (depthStep depth part).bind (depth? · parts) := rfl

theorem depth?_append (depth : Nat) (parts more : List String) :
    depth? depth (parts ++ more) = (depth? depth parts).bind (depth? · more) :=
  List.foldlM_append

theorem depth?_name {name : String} (h : name ≠ "..") (depth : Nat) :
    depth? depth [name] = some (depth + 1) := by
  rw [depth?_cons, depthStep, if_neg h]
  rfl

/-- Whether the parts of a path are such as its text can have. -/
def Proper (p : Path) : Prop := ∀ part ∈ p.parts, isPart part = true ∧ '/' ∉ part.toList

theorem proper_ofString (s : String) : Proper (ofString s) := by
  intro part mem
  obtain ⟨mem, plain⟩ := List.mem_filter.1 mem
  exact ⟨plain, Text.not_mem_of_mem_pieces mem⟩

/-- Parts that never step above their start lead as far below it as their depth says. -/
theorem textual_of_depth? {parts : List String} (plain : ∀ part ∈ parts, isPart part = true)
    (inner here : Location) {depth : Nat} (h : depth? inner.length parts = some depth) :
    ∃ inner', inner'.length = depth ∧
      World.textual (inner ++ here) parts = inner' ++ here := by
  induction parts generalizing inner with
  | nil =>
    cases h
    exact ⟨inner, rfl, rfl⟩
  | cons part parts ih =>
    obtain ⟨first, plain⟩ := List.forall_mem_cons.1 plain
    obtain ⟨nonempty, undotted⟩ : part ≠ "" ∧ part ≠ "." := by simpa [isPart] using first
    rw [depth?_cons, depthStep] at h
    rw [World.textual_cons, World.textualStep, if_neg (not_or.2 ⟨nonempty, undotted⟩)]
    split at h
    · next up =>
      rw [if_pos up]
      cases inner with
      | nil => cases h
      | cons name inner => exact ih plain inner h
    · next down =>
      rw [if_neg down]
      exact ih plain (part :: inner) h

/-- Whether a path that is put below another one has a name and never steps above it. -/
structure Inward (p : Path) : Prop where
  here : p.anchor = .here
  nonempty : p.parts ≠ []
  inside : (depth? 0 p.parts).isSome

/-- The start of a path that leads inward steps down. -/
theorem Inward.exists_name {p : Path} (inward : Inward p) (proper : Proper p) :
    ∃ name rest, p.parts = name :: rest ∧ World.IsName name := by
  obtain ⟨name, rest, parts⟩ := List.exists_cons_of_ne_nil inward.nonempty
  obtain ⟨nonempty, undotted⟩ : name ≠ "" ∧ name ≠ "." := by
    simpa [isPart] using (proper name (by rw [parts]; exact List.mem_cons_self)).1
  refine ⟨name, rest, parts, nonempty, undotted, ?_⟩
  rintro rfl
  have inside := inward.inside
  rw [parts, depth?_cons, depthStep, if_pos rfl] at inside
  cases inside

/-- Another name may follow. -/
theorem Inward.child {p : Path} (inward : Inward p) {name : String} (h : name ≠ "..") :
    Inward (p.child name) where
  here := inward.here
  nonempty := List.append_ne_nil_of_right_ne_nil _ (List.cons_ne_nil _ _)
  inside := by
    obtain ⟨depth, inside⟩ := Option.isSome_iff_exists.1 inward.inside
    rw [Path.child, depth?_append, inside, Option.bind_some, depth?_name h]
    rfl

/-- Another name may stand in place of the last part. -/
theorem Inward.renamed {p : Path} (inward : Inward p) {name : String} (h : name ≠ "..") :
    Inward ⟨p.anchor, p.parts.dropLast ++ [name]⟩ where
  here := inward.here
  nonempty := List.append_ne_nil_of_right_ne_nil _ (List.cons_ne_nil _ _)
  inside := by
    have inside := inward.inside
    rw [← List.dropLast_concat_getLast inward.nonempty, depth?_append] at inside
    cases outer : depth? 0 p.parts.dropLast with
    | none =>
      rw [outer] at inside
      cases inside
    | some depth =>
      dsimp only
      rw [depth?_append, outer, Option.bind_some, depth?_name h]
      rfl

theorem Proper.child {p : Path} (proper : Proper p) {name : String} (part : isPart name = true)
    (unslashed : '/' ∉ name.toList) : Proper (p.child name) := by
  intro other mem
  rcases List.mem_append.1 mem with mem | mem
  · exact proper other mem
  · obtain rfl := List.mem_singleton.1 mem
    exact ⟨part, unslashed⟩

theorem append_here {base p : Path} (h : p.anchor = .here) :
    base ++ p = ⟨base.anchor, base.parts ++ p.parts⟩ := by
  show append base p = _
  rw [append, h]

end Path

namespace Specifier

/-- What is looked up is a relative path, whatever the specifier. -/
theorem anchor_confine (specifier : String) :
    (Path.ofString (confine specifier)).anchor = .here := by
  have anchored (s : List Char) : Path.anchorOf (anchorHere s) = .here := by
    fun_cases anchorHere s <;> rfl
  rw [Path.ofString, confine, String.toList_ofList]
  exact anchored _

end Specifier

namespace Locator

open ExportTrail.Path

/-- Whether a text can be appended to a name to form the name of a file: it starts with a dot and
has no slash. -/
def IsExtension (extension : String) : Prop :=
  extension.toList.head? = some '.' ∧ '/' ∉ extension.toList

variable {l : Locator} {ws : Workspace} {base rel : Path} {loc : Location}

/-- A name with an extension is a name. -/
theorem isName_extended {name extension : String} (part : isPart name = true)
    (h : IsExtension extension) : World.IsName (name ++ extension) := by
  have chars (cs ds : List Char) (some_char : cs ≠ []) (undotted : cs ≠ ['.']) (more : ds ≠ []) :
      cs ++ ds ≠ [] ∧ cs ++ ds ≠ ['.'] ∧ cs ++ ds ≠ ['.', '.'] := by
    rcases cs with _ | ⟨c, _ | ⟨d, cs⟩⟩
    · exact absurd rfl some_char
    · simp_all
    · simp_all
  obtain ⟨nonempty, undotted⟩ : name ≠ "" ∧ name ≠ "." := by simpa [isPart] using part
  have more : extension.toList ≠ [] := by
    intro none
    have dotted := h.1
    rw [none] at dotted
    cases dotted
  simp only [World.IsName, ne_eq, ← String.toList_inj, String.toList_append] at nonempty undotted ⊢
  exact chars _ _ nonempty undotted more

/-- With an extension a path is as inward as without. -/
theorem extend_inward {extension : String} {q : Path} (h : IsExtension extension)
    (inward : Inward rel) (proper : Proper rel)
    (extended : extend (base ++ rel) extension = .ok q) :
    ∃ rel', q = base ++ rel' ∧ Inward rel' ∧ Proper rel' := by
  obtain ⟨part, unslashed⟩ := proper _ (List.getLast_mem inward.nonempty)
  obtain ⟨nonempty, undotted, down⟩ := isName_extended part h
  have named : (base ++ rel).name? = some (rel.parts.getLast inward.nonempty) := by
    rw [append_here inward.here, name?, List.getLast?_append,
      List.getLast?_eq_some_getLast inward.nonempty]
    rfl
  have one : Text.pieces '/' (rel.parts.getLast inward.nonempty ++ extension) =
      [rel.parts.getLast inward.nonempty ++ extension] := by
    refine Text.pieces_of_not_mem ?_
    rw [String.toList_append, List.mem_append]
    exact not_or.2 ⟨unslashed, h.2⟩
  rw [extend, named] at extended
  dsimp only at extended
  split at extended
  · cases extended
    refine ⟨⟨rel.anchor, rel.parts.dropLast ++ [rel.parts.getLast inward.nonempty ++ extension]⟩,
      ?_, inward.renamed down, ?_⟩
    · rw [append_here (inward.renamed down).here, append_here inward.here, withName, one]
      dsimp only
      rw [List.dropLast_append_of_ne_nil inward.nonempty, List.append_assoc]
    · refine Proper.child (p := ⟨rel.anchor, rel.parts.dropLast⟩) ?_ ?_ ?_
      · exact fun part mem => proper part (List.dropLast_subset _ mem)
      · simp [isPart, nonempty, undotted]
      · rw [String.toList_append, List.mem_append]
        exact not_or.2 ⟨unslashed, h.2⟩
  · cases extended

section

variable (linkless : ws.world.Linkless)
include linkless

/-- A file that is looked up inward lies below the base, which is a directory. -/
theorem regularFile?_confined (inward : Inward rel) (proper : Proper rel)
    (h : ws.world.regularFile? ws.cwd (base ++ rel) = .ok (some loc)) :
    base.hasNul = false ∧
      ∃ inner, inner ≠ [] ∧
        loc = inner ++ World.textual (World.start ws.cwd base) base.parts := by
  obtain ⟨content, file⟩ := World.regularFile?_regular h
  obtain ⟨clean, a, walked, rfl⟩ := World.walk_of_follow (World.follow_of_regularFile? h)
  have start : World.start ws.cwd (base ++ rel) = World.start ws.cwd base := by
    rw [append_here inward.here]
    rfl
  have parts : (base ++ rel).parts = base.parts ++ rel.parts := by rw [append_here inward.here]
  rw [start, parts] at walked
  have place : a.location = World.textual (World.start ws.cwd base) (base.parts ++ rel.parts) :=
    World.walk_linkless linkless walked
  rw [World.textual_append] at place
  obtain ⟨depth, inside⟩ := Option.isSome_iff_exists.1 inward.inside
  obtain ⟨inner, -, below⟩ := textual_of_depth? (fun part mem => (proper part mem).1) []
    (World.textual (World.start ws.cwd base) base.parts) inside
  rw [List.nil_append] at below
  refine ⟨?_, inner, ?_, place.trans below⟩
  · rw [hasNul, parts, List.any_append, Bool.or_eq_false_iff] at clean
    exact clean.1
  · -- the walk goes down from the base, so that this is a directory and not the file
    rintro rfl
    obtain ⟨name, rest, first, named⟩ := inward.exists_name proper
    have onward : ws.world.walk World.maxLinks
        (World.textual (World.start ws.cwd base) base.parts) (name :: rest) = .ok a :=
      first ▸ World.walk_append linkless inward.nonempty walked
    rw [place, below, List.nil_append, World.lookup_of_walk named onward] at file
    cases file

/-- So does a file that is looked up with an extension. -/
theorem asFile_confined (extensions : ∀ x ∈ l.extensions, IsExtension x) (inward : Inward rel)
    (proper : Proper rel) (h : l.asFile ws (base ++ rel) = .ok (some loc)) :
    base.hasNul = false ∧
      ∃ inner, inner ≠ [] ∧
        loc = inner ++ World.textual (World.start ws.cwd base) base.parts := by
  obtain ⟨q, probe, found⟩ := firstFile_ok h
  rcases mem_probes.1 probe with same | ⟨x, mem, extended⟩
  · cases same
    exact regularFile?_confined linkless inward proper found
  · obtain ⟨rel', rfl, inward', proper'⟩ := extend_inward (extensions x mem) inward proper extended
    exact regularFile?_confined linkless inward' proper' found

end

/-- The places that are searched lead inward if those of the text and of the main entry do. -/
theorem spot_inward {text : String} (steps : Inward (ofString text))
    (entries : ∀ main, (mainEntry ws (base ++ ofString text)).outcome = .ok (some main) →
      Inward (ofString text ++ ofString main)) {q : Path}
    (spot : Spot ws (base ++ ofString text) q) :
    ∃ rel, q = base ++ rel ∧ Inward rel ∧ Proper rel := by
  cases spot with
  | itself => exact ⟨ofString text, rfl, steps, proper_ofString text⟩
  | @entry main named =>
    have inward := entries main named
    have relative : (ofString main).anchor = .here := by
      have here : (append (ofString text) (ofString main)).anchor = .here := inward.here
      rw [append] at here
      split at here
      · assumption
      · exact here
    refine ⟨ofString text ++ ofString main, ?_, inward, ?_⟩
    · rw [append_here relative, append_here steps.here, append_here inward.here,
        append_here relative, List.append_assoc]
    · rw [append_here relative]
      intro part mem
      rcases List.mem_append.1 mem with mem | mem
      · exact proper_ofString text part mem
      · exact proper_ofString main part mem

theorem locate_search {specifier base : String} {p : Path}
    (h : (l.locate ws specifier base).outcome = .ok p) :
    ∃ loc, p = Location.toPath loc ∧
      (l.search ws (candidate specifier (ofString base))).outcome = .ok (some loc) := by
  rw [locate] at h
  split at h
  · cases h
  · cases h
  · next found =>
    cases h
    exact find?_search found

/-- **Lookup is confined to the root, unless the text leads out of it.** In a world without links,
let all extensions start with a dot and have no slash. Suppose that the text that is left of a
specifier has a name and never steps above its start, and that this also holds of the main entry
that is put below it, if there is one. Then whatever the specifier is located as lies below the
canonical path of the base directory. -/
theorem locate_confined (linkless : ws.world.Linkless) (named : ws.world.Named)
    (extensions : ∀ x ∈ l.extensions, IsExtension x) {specifier base : String} {p : Path}
    (steps : Inward (ofString (Specifier.confine specifier)))
    (entries : ∀ main,
      (mainEntry ws (candidate specifier (ofString base))).outcome = .ok (some main) →
        Inward (ofString (Specifier.confine specifier) ++ ofString main))
    (h : (l.locate ws specifier base).outcome = .ok p) :
    ∃ root, ws.world.canonical ws.cwd (ofString base) = .ok root ∧ Below root p := by
  obtain ⟨loc, rfl, found⟩ := locate_search h
  obtain ⟨stem, isStem, file⟩ := search_stem found
  have below : (ofString base).hasNul = false ∧ ∃ inner, inner ≠ [] ∧
      loc = inner ++ World.textual (World.start ws.cwd (ofString base)) (ofString base).parts := by
    cases isStem with
    | spot spot =>
      obtain ⟨rel, rfl, inward, proper⟩ := spot_inward steps entries spot
      exact asFile_confined linkless extensions inward proper file
    | index spot =>
      obtain ⟨rel, rfl, inward, proper⟩ := spot_inward steps entries spot
      have index :
          (ofString base ++ rel).child indexName = ofString base ++ rel.child indexName := by
        rw [append_here inward.here, append_here (inward.child (by decide)).here, Path.child,
          List.append_assoc]
        rfl
      rw [index] at file
      exact asFile_confined linkless extensions (inward.child (by decide))
        (proper.child (by decide) (by decide)) file
  obtain ⟨clean, inner, strict, rfl⟩ := below
  obtain ⟨content, regular⟩ := search_regular found
  have directory := World.lookup_above regular strict
  exact ⟨_, World.canonical_linkless linkless clean (named.hasNul_toPath directory),
    below_toPath _ strict⟩

/-! ## Ways out -/

namespace WayOut

/-- A directory to look up specifiers in, and two files next to it. -/
def workspace : Workspace where
  world := ⟨[(["s.js"], .file []), (["r.js"], .file []), (["r"], .directory)]⟩
  cwd := []
  grammars _ _ := ⟨⟨"program", true, false, false, 0, 0, [], []⟩, false⟩

theorem linkless : workspace.world.Linkless := by
  refine .of_entries ?_
  simp [workspace]

theorem named : workspace.world.Named := by
  refine .of_entries ?_
  simp [workspace, World.IsName, isNulPart]

theorem extensions : ∀ x ∈ Locator.default.extensions, IsExtension x := by
  unfold IsExtension
  decide

end WayOut

open WayOut in
/-- The entry of the root itself leads inward from there. -/
theorem locate_confined_file :
    (Locator.default.locate workspace "s" "/").outcome = .ok ⟨.root, ["s.js"]⟩ ∧
      ∃ root, workspace.world.canonical workspace.cwd (ofString "/") = .ok root ∧
        Below root ⟨.root, ["s.js"]⟩ := by
  have text : ofString (Specifier.confine "s") = ⟨.here, ["s"]⟩ := by cbv
  have top : ofString "/" = ⟨.root, []⟩ := by cbv
  have steps : Inward (ofString (Specifier.confine "s")) :=
    ⟨Specifier.anchor_confine "s", by rw [text]; decide, by rw [text]; decide⟩
  have located : (Locator.default.locate workspace "s" "/").outcome = .ok ⟨.root, ["s.js"]⟩ := by
    cbv
  refine ⟨located, locate_confined linkless named WayOut.extensions steps ?_ located⟩
  -- there is no manifest
  intro main entry
  obtain ⟨loc, manifest⟩ := regularFile?_of_mainEntry entry
  have listed := (World.regularFile?_regular manifest).mem_locations
  obtain ⟨-, a, walked, rfl⟩ := World.walk_of_follow (World.follow_of_regularFile? manifest)
  rw [World.walk_linkless linkless walked, candidate, text, top] at listed
  exact absurd listed (by decide)

open WayOut in
/-- Two ways out of the root, in a world without links and with the extensions that are tried by
default: dots that become a step up only when `../` is dropped between them, and a text that names
the root itself. -/
theorem locate_escapes :
    workspace.world.Linkless ∧ workspace.world.Named ∧
      (∀ x ∈ Locator.default.extensions, IsExtension x) ∧
      ∃ root, workspace.world.canonical workspace.cwd (ofString "/r") = .ok root ∧
        ∀ specifier ∈ ["....//s", "."], ∃ p,
          (Locator.default.locate workspace specifier "/r").outcome = .ok p ∧ ¬ Below root p := by
  have canonical :
      workspace.world.canonical workspace.cwd (ofString "/r") = .ok ⟨.root, ["r"]⟩ := by
    cbv
  have up : (Locator.default.locate workspace "....//s" "/r").outcome = .ok ⟨.root, ["s.js"]⟩ := by
    cbv
  have itself : (Locator.default.locate workspace "." "/r").outcome = .ok ⟨.root, ["r.js"]⟩ := by
    cbv
  refine ⟨linkless, named, WayOut.extensions, _, canonical, ?_⟩
  intro specifier mem
  rcases List.mem_cons.1 mem with rfl | mem
  · exact ⟨_, up, by simp [Below]⟩
  · obtain rfl := List.mem_singleton.1 mem
    exact ⟨_, itself, by simp [Below]⟩

end Locator

end ExportTrail
