import ExportTrail.Cursor
import ExportTrail.Log

/-!
# Parsing sources

The grammar of a source follows from its options: the language they name, or else the suffix of the
file, or else the default dialect. A source that was only taken to be in the default dialect gets a
second chance with the fallback grammar. A source with a flagged node is refused; the failure tells
where the first flagged node of the first grammar's tree stands.
-/

namespace ExportTrail

/-- The grammar for a source, and the one to try if it refuses the source. -/
structure GrammarChoice where
  dialect : Dialect
  fallback : Option Dialect
  deriving DecidableEq, Repr

namespace GrammarChoice

/-- The name of the grammar that options select. -/
def languageOf (o : Options) : String :=
  match o.language with
  | some name => name
  | none => ((o.filename.bind Dialect.ofPath?).getD Dialect.default).name

/-- The grammar that options select. -/
def ofOptions (o : Options) : Except Failure GrammarChoice :=
  match Dialect.ofName? (languageOf o) with
  | none => .error (.unknownDialect (languageOf o))
  | some dialect =>
    .ok ⟨dialect,
      if o.language = none ∧ dialect = Dialect.default then some Dialect.fallback else none⟩

end GrammarChoice

/-- The most bytes of a flagged node that a failure shows. -/
def snippetBytes : Nat := 40

/-- The text that a failure shows of a flagged node. -/
def snippet (source : List UInt8) (flagged : Tree) : String :=
  String.ofList (Text.Utf8.decodeLossy
    (((source.take flagged.stop).drop flagged.start).take snippetBytes))

/-- The failure of a source whose first flagged node is given. -/
def brokenSource (o : Options) (source : List UInt8) (flagged : Tree) : Failure :=
  let node := Node.root 0 source flagged
  .brokenSource (o.filename.map Path.toString) node.line node.column (snippet source flagged)

/-- Parses a source with chosen grammars and attaches the options to the root. The tree becomes the
parse of the given serial number. -/
def parseWith (grammars : Grammars) (choice : GrammarChoice) (o : Options) (serial : Nat)
    (source : List UInt8) : Recorded Cursor :=
  let accepted (p : Parse) : Cursor := .top (Node.root serial source p.tree) (some o)
  let first := grammars choice.dialect source
  match first.firstFlagged? with
  | none => .quiet (.ok (accepted first))
  | some flagged =>
    match choice.fallback with
    | none => .quiet (.error (brokenSource o source flagged))
    | some fallback =>
      let second := grammars fallback source
      match second.firstFlagged? with
      | none => ⟨.ok (accepted second), [.fellBack o.filename fallback]⟩
      | some _ => .quiet (.error (brokenSource o source flagged))

/-- Chooses the grammar for a source with given options. -/
def chooseGrammar (o : Options) : Recorded GrammarChoice :=
  match GrammarChoice.ofOptions o with
  | .error e => .quiet (.error e)
  | .ok choice => ⟨.ok choice, [.usingDialect choice.dialect o.filename]⟩

/-- Parses a source with the grammar that its options select. -/
def parseSource (grammars : Grammars) (o : Options) (serial : Nat) (source : List UInt8) :
    Recorded Cursor :=
  let chosen := chooseGrammar o
  match chosen.outcome with
  | .error e => ⟨.error e, chosen.events⟩
  | .ok choice => (parseWith grammars choice o serial source).after chosen.events

end ExportTrail
