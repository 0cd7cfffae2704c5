import ExportTrail.Import
import ExportTrail.Proofs.Export.Agenda
import ExportTrail.Proofs.Parse.Options
import Mathlib.Data.List.Forall2

/-!
# Bindings as they are written

A `Binding` is what one specifier writes between braces: the name that the other module exports, the
name that it is bound to if that is another one, and whether it is for types only. The same bindings
can be written in an import statement (`Imports`), where `D` in front of the braces stands for
`default as D`, and in an export statement with a source (`Reexports`).

The two statements look a name up in different ways: the import takes the first binding whose text
is the name, and the export works on all bindings whose unquoted name it is, the last of which
counts. Both are read off the bindings here (`Imports.exportedName?_eq`, `Reexports.agenda_eq`).
-/

namespace ExportTrail

/-- A word of a source: an identifier, a keyword, or a string with its quotes. -/
structure Word where
  kind : String
  text : String
  deriving DecidableEq

/-- The name that a word stands for. -/
def Word.name (w : Word) : String := if w.kind = "string" then Cursor.unquoted w.text else w.text

/-- The word that a cursor stands on. -/
def Cursor.word (c : Cursor) : Word := ⟨c.kind, c.text⟩

theorem Cursor.bindingName_eq (c : Cursor) : c.bindingName = c.word.name := rfl

/-- What a specifier writes. -/
structure Binding where
  /-- The name in the other module. -/
  imported : Word
  /-- The name that follows `as`. -/
  renamed : Option Word
  /-- Whether the specifier is for types only. -/
  typeOnly : Bool

namespace Binding

/-- The word that is bound. -/
def bound (b : Binding) : Word := b.renamed.getD b.imported

/-- Whether a name is bound to a value. -/
def binds (name : String) (b : Binding) : Bool := !b.typeOnly && b.bound.text = name

/-- The binding of a default import. -/
def default (bound : Word) : Binding := ⟨⟨"default", "default"⟩, some bound, false⟩

/-- Whether a specifier of an import or an export writes a binding. -/
structure WrittenBy (b : Binding) (specifier : Cursor) : Prop where
  types : Export.isTypeOnly specifier = b.typeOnly
  imported : (specifier.field? "name").map Cursor.word = some b.imported
  renamed : (specifier.field? "alias").map Cursor.word = b.renamed

/-- Whether some bindings are those of one part of an import clause. -/
inductive OfPart (part : Cursor) : List Binding → Prop
  /-- A default import. -/
  | default (kind : part.kind = "identifier") : OfPart part [Binding.default part.word]
  /-- Specifiers between braces. -/
  | named {bs : List Binding} (kind : part.kind = "named_imports")
    (written : List.Forall₂ WrittenBy bs (part.namedChildrenOf "import_specifier")) :
    OfPart part bs
  /-- Anything else, such as a comment. -/
  | other (default : part.kind ≠ "identifier") (named : part.kind ≠ "named_imports") :
    OfPart part []

/-- Whether the words that are bound are identifiers, no two of them the same. -/
structure Distinct (bs : List Binding) : Prop where
  identifiers : ∀ b ∈ bs, b.bound.kind = "identifier"
  nodup : (bs.map (·.bound.text)).Nodup

end Binding

/-- Whether an import statement writes some bindings, of which it names a source. -/
structure Imports (statement : Cursor) (source : String) (bs : List Binding) : Prop where
  values : Export.isTypeOnly statement = false
  source : Search.source? statement = some source
  parts : ∃ pieces, bs = pieces.flatten ∧ List.Forall₂ Binding.OfPart
    ((statement.namedChildrenOf "import_clause").flatMap Cursor.namedChildren) pieces

/-- Whether a program consists of one statement that exports some bindings of a source. -/
structure Reexports (program statement : Cursor) (source : String) (bs : List Binding) : Prop where
  root : program.kind = Cursor.programKind
  only : program.namedChildren = [statement]
  kind : statement.kind = Export.statementKind
  form : Export.form? statement = some .specifiers
  source : Search.source? statement = some source
  written : List.Forall₂ Binding.WrittenBy bs
    ((statement.namedChildrenOf "export_clause").flatMap
      fun clause => clause.namedChildrenOf "export_specifier")

/-! ## What an import binds -/

namespace Binding

variable {name : String} {b : Binding} {bs : List Binding} {c : Cursor}

/-- What a name is imported as by the first binding for it. -/
def importedName? (name : String) (bs : List Binding) : Option String :=
  (bs.find? (binds name)).map (·.imported.name)

theorem binds_iff : b.binds name = true ↔ b.typeOnly = false ∧ b.bound.text = name := by
  simp [binds]

theorem importedName?_append (bs bs' : List Binding) :
    importedName? name (bs ++ bs') = (importedName? name bs).or (importedName? name bs') := by
  rw [importedName?, List.find?_append, Option.map_or]
  rfl

theorem WrittenBy.specifierName?_eq (h : b.WrittenBy c) :
    Import.specifierName? name c = if b.binds name then some b.imported.name else none := by
  obtain ⟨types, imported, renamed⟩ := h
  obtain ⟨inner, field, same⟩ := Option.map_eq_some_iff.1 imported
  have bound : ((c.field? "alias").getD inner).text = b.bound.text := by
    rw [Binding.bound, ← renamed, ← same]
    cases c.field? "alias" <;> rfl
  rw [Import.specifierName?, types, field]
  dsimp only
  rw [bound, Cursor.bindingName_eq, same, binds]
  cases b.typeOnly <;> simp

theorem findSome?_specifierName? {cs : List Cursor} (h : List.Forall₂ WrittenBy bs cs) :
    cs.findSome? (Import.specifierName? name) = importedName? name bs := by
  induction h with
  | nil => rfl
  | @cons b c bs cs written _ ih =>
    rw [List.findSome?_cons, written.specifierName?_eq, ih, importedName?, importedName?,
      List.find?_cons]
    cases b.binds name <;> rfl

theorem OfPart.partName?_eq (h : OfPart c bs) :
    Import.partName? name c = importedName? name bs := by
  rw [Import.partName?]
  cases h with
  | default kind =>
    rw [if_pos kind, importedName?, List.find?_singleton]
    by_cases same : c.text = name
    · rw [if_pos same, if_pos (by simp [binds, Binding.default, bound, Cursor.word, same])]
      rfl
    · rw [if_neg same, if_neg (by simp [binds, Binding.default, bound, Cursor.word, same])]
      rfl
  | named kind written =>
    rw [if_neg (by simp [kind]), if_pos kind]
    exact findSome?_specifierName? written
  | other default named => rw [if_neg default, if_neg named]; rfl

end Binding

theorem Imports.exportedName?_eq {statement : Cursor} {source : String} {bs : List Binding}
    (h : Imports statement source bs) (name : String) :
    Import.exportedName? statement name = Binding.importedName? name bs := by
  obtain ⟨pieces, rfl, parts⟩ := h.parts
  have each (cs : List Cursor) (pieces : List (List Binding))
      (parts : List.Forall₂ Binding.OfPart cs pieces) :
      cs.findSome? (Import.partName? name) = Binding.importedName? name pieces.flatten := by
    induction parts with
    | nil => rfl
    | @cons c piece cs pieces part _ ih =>
      rw [List.findSome?_cons, part.partName?_eq, ih, List.flatten_cons,
        Binding.importedName?_append]
      cases Binding.importedName? name piece <;> rfl
  rw [Import.exportedName?, h.values, ← each _ _ parts, if_neg Bool.false_ne_true]
  induction statement.namedChildrenOf "import_clause" with
  | nil => rfl
  | cons clause clauses ih =>
    rw [List.findSome?_cons, List.flatMap_cons, List.findSome?_append, ih]
    cases clause.namedChildren.findSome? (Import.partName? name) <;> rfl

/-! ## What an export asks for -/

namespace Binding

variable {name : String} {b : Binding} {bs : List Binding} {c s : Cursor}

theorem WrittenBy.specifier?_eq (h : b.WrittenBy c) :
    ∃ inner, inner.word = b.imported ∧
      Export.specifier? c = if b.typeOnly then none else some (b.bound.name, inner) := by
  obtain ⟨types, imported, renamed⟩ := h
  obtain ⟨inner, field, same⟩ := Option.map_eq_some_iff.1 imported
  have bound : ((c.field? "alias").getD inner).bindingName = b.bound.name := by
    rw [Cursor.bindingName_eq, Binding.bound, ← renamed, ← same]
    cases c.field? "alias" <;> rfl
  refine ⟨inner, same, ?_⟩
  rw [Export.specifier?, types, field, Option.map_some, bound]

/-- The specifiers that export a name write the bindings for it. -/
theorem map_word_specifier? {cs : List Cursor} (h : List.Forall₂ WrittenBy bs cs) (name : String)
    (identifiers : ∀ b ∈ bs, b.bound.kind = "identifier") :
    ((cs.filterMap Export.specifier?).filter (·.1 = name)).map (·.2.word) =
      (bs.filter (binds name)).map (·.imported) := by
  induction h with
  | nil => rfl
  | @cons b c bs cs written _ ih =>
    obtain ⟨identifier, identifiers⟩ := List.forall_mem_cons.1 identifiers
    obtain ⟨inner, word, eq⟩ := written.specifier?_eq
    have named : b.bound.name = b.bound.text := by rw [Word.name, if_neg (by simp [identifier])]
    rw [List.filterMap_cons, eq]
    cases types : b.typeOnly with
    | true =>
      rw [if_pos rfl, List.filter_cons_of_neg (by simp [binds, types])]
      exact ih identifiers
    | false =>
      rw [if_neg Bool.false_ne_true]
      dsimp only
      by_cases same : b.bound.text = name
      · rw [List.filter_cons_of_pos (by simp [named, same]),
          List.filter_cons_of_pos (by simp [binds, types, same]), List.map_cons, List.map_cons,
          word, ih identifiers]
      · rw [List.filter_cons_of_neg (by simp [named, same]),
          List.filter_cons_of_neg (by simp [binds, types, same]), ih identifiers]

/-- At most one of several distinct bindings is for a name. -/
theorem Distinct.filter_eq (h : Distinct bs) (name : String) :
    bs.filter (binds name) = (bs.find? (binds name)).toList := by
  have nodup := h.nodup
  clear h
  induction bs with
  | nil => rfl
  | cons b bs ih =>
    obtain ⟨fresh, nodup⟩ := List.nodup_cons.1 nodup
    cases hit : b.binds name with
    | false => rw [List.filter_cons_of_neg (by simp [hit]), List.find?_cons, hit, ih nodup]
    | true =>
      have none : bs.filter (binds name) = [] := by
        refine List.filter_eq_nil_iff.2 fun b' mem hit' => fresh ?_
        exact List.mem_map.2 ⟨b', mem, (binds_iff.1 hit').2.trans (binds_iff.1 hit).2.symm⟩
      rw [List.filter_cons_of_pos hit, List.find?_cons, hit, none]
      rfl

end Binding

theorem Reexports.statements_eq {program statement : Cursor} {source : String} {bs : List Binding}
    (h : Reexports program statement source bs) : Export.statements program = [statement] := by
  have each : ∀ s ∈ program.namedChildren, s.kind = Export.statementKind := by
    rw [h.only]
    exact List.forall_mem_singleton.2 h.kind
  rw [Export.statements_eq_namedChildren (by rw [h.root]; decide) (by rw [h.root]; decide) each,
    h.only]

theorem Reexports.options_eq {program statement : Cursor} {source : String} {bs : List Binding}
    (h : Reexports program statement source bs) : statement.options = program.options := by
  have child : statement ∈ program.namedChildren := h.only ▸ List.mem_singleton_self _
  obtain ⟨n, -, rfl⟩ := List.mem_map.1 child
  have kind : n.kind = Export.statementKind := h.kind
  rw [Cursor.options_via, if_neg (by rw [kind]; decide)]

theorem Reexports.agenda_eq {program statement : Cursor} {source : String} {bs : List Binding}
    (h : Reexports program statement source bs) (distinct : Binding.Distinct bs) (name : String) :
    Export.agenda program name =
      (Binding.importedName? name bs).toList.map fun imported => .ask statement imported true := by
  have sourced : (statement.field? "source").isSome := by
    have source := h.source
    rw [Search.source?] at source
    cases field : statement.field? "source" with
    | none => simp [field] at source
    | some _ => rfl
  have words : (Export.localNames name statement).map Cursor.word =
      (bs.filter (Binding.binds name)).map (·.imported) := by
    rw [Export.localNames, Export.specifiers, ← List.filterMap_flatMap, List.map_map,
      ← Binding.map_word_specifier? h.written name distinct.identifiers]
    rfl
  have asked : Export.specifierItems statement name =
      ((Export.localNames name statement).map Cursor.word).map
        fun imported => .ask statement imported.name true := by
    rw [Export.specifierItems_eq, List.map_map]
    simp only [sourced, if_true]
    rfl
  rw [Export.agenda, h.statements_eq, List.flatMap_singleton, Export.items, h.form]
  dsimp only
  rw [asked, words, distinct.filter_eq, Binding.importedName?]
  cases bs.find? (Binding.binds name) <;> rfl

end ExportTrail
