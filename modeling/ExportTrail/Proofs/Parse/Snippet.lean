import ExportTrail.Parsing
import ExportTrail.Proofs.Text.Utf8

/-!
# What a failure shows of a source

The failure of a source that does not parse shows the text of the first flagged node, cut behind 40
bytes. What a node covers is bytes; if they start and end at boundaries of characters, the node spans
a text of the source (`Tree.Spans`, `Tree.exists_spans_iff`). Main statement
(`snippet_whole_characters`): as many whole characters of this text are shown as fit, and a mark
behind them if the cut goes through a character.
-/

namespace ExportTrail

open Text.Utf8

/-! ## The text of a node -/

namespace Tree

/-- Whether a node of a source spans a text: it starts where the text does and ends where it ends. -/
def Spans (t : Tree) (source text : List Char) : Prop :=
  ∃ before after, source = before ++ text ++ after ∧ t.start = (encode before).length ∧
    t.stop = (encode (before ++ text)).length

variable {t : Tree} {source text : List Char}

/-- A node spans a text if and only if it starts and ends at boundaries of characters, and does not
end before it starts. -/
theorem exists_spans_iff :
    (∃ text, t.Spans source text) ↔
      t.start ≤ t.stop ∧ Boundary source t.start ∧ Boundary source t.stop := by
  constructor
  · rintro ⟨text, before, after, rfl, start, stop⟩
    have front : before <+: before ++ text := List.prefix_append before text
    have front' : before ++ text <+: before ++ text ++ after := List.prefix_append _ after
    refine ⟨?_, ⟨before, front.trans front', start.symm⟩, ⟨before ++ text, front', stop.symm⟩⟩
    rw [start, stop]
    exact length_encode_mono front
  · rintro ⟨forward, ⟨before, front, start⟩, ⟨upto, front', stop⟩⟩
    obtain ⟨text, rfl⟩ : before <+: upto := by
      rcases List.prefix_or_prefix_of_prefix front front' with le | ⟨more, rfl⟩
      · exact le
      · -- there is no room for anything between the two boundaries
        have count := length_le_length_encode more
        rw [encode_append, List.length_append] at start
        have none : more = [] := List.eq_nil_of_length_eq_zero (by omega)
        rw [none, List.append_nil]
    obtain ⟨after, eq⟩ := front'
    exact ⟨text, before, after, eq.symm, start.symm, stop.symm⟩

namespace Spans

theorem bytes_eq (h : t.Spans source text) :
    (Node.root 0 (encode source) t).bytes = encode text := by
  obtain ⟨before, after, rfl, start, stop⟩ := h
  show ((encode (before ++ text ++ after)).take t.stop).drop t.start = encode text
  rw [stop, encode_append (before ++ text), List.take_left, start, encode_append, List.drop_left]

theorem text_eq (h : t.Spans source text) :
    (Node.root 0 (encode source) t).text = String.ofList text := by
  rw [Node.text, h.bytes_eq, decodeLossy_encode]

theorem snippet_eq (h : t.Spans source text) {whole : List Char}
    (fills : Fills snippetBytes text whole) :
    snippet (encode source) t =
      String.ofList (whole ++ if Severs snippetBytes text then ['\uFFFD'] else []) := by
  rw [← fills.decodeLossy_take, ← h.bytes_eq]
  rfl

theorem snippet_eq_of_le (h : t.Spans source text) (small : (encode text).length ≤ snippetBytes) :
    snippet (encode source) t = String.ofList text := by
  obtain ⟨whole, fills⟩ := exists_fills snippetBytes text
  have unsevered : ¬ Severs snippetBytes text := fun severs => Nat.not_lt.2 small severs.1
  rw [h.snippet_eq fills, fills.eq_of_fits small, if_neg unsevered, List.append_nil]

/-- The mark takes the place of at least one byte. -/
theorem length_snippet_le (h : t.Spans source text) :
    (snippet (encode source) t).length ≤ snippetBytes := by
  obtain ⟨whole, fills⟩ := exists_fills snippetBytes text
  have count := length_le_length_encode whole
  rw [h.snippet_eq fills, String.length_ofList, List.length_append]
  split
  · next severs => exact Nat.lt_of_le_of_lt count (fills.lt_of_severs severs)
  · exact Nat.le_trans count fills.fits

end Spans

end Tree

/-! ## The failure -/

/-- A source with a flagged node in the selected grammar's tree, and in that of the fallback if there
is one, is refused because of the first of the former. -/
theorem parseWith_refused {grammars : Grammars} {choice : GrammarChoice} {source : List UInt8}
    {flagged : Tree} (first : (grammars choice.dialect source).firstFlagged? = some flagged)
    (second : ∀ dialect, choice.fallback = some dialect →
      (grammars dialect source).hasError = true) (o : Options) (serial : Nat) :
    parseWith grammars choice o serial source =
      .quiet (.error (brokenSource o source flagged)) := by
  unfold parseWith
  dsimp only
  rw [first]
  dsimp only
  split
  · rfl
  · next dialect fallback =>
    have found : (grammars dialect source).firstFlagged? ≠ none := by
      simp [Parse.firstFlagged?, second dialect fallback]
    split
    · next none => exact absurd none found
    · rfl

/-- **A failure shows as many whole characters of a node as fit in 40 bytes.** Let a node of a source
start and end at boundaries of characters, so that it spans a text. What a failure shows of it is
the longest run of characters at the front of the text whose bytes are at most 40, with one
replacement character behind it if the text is longer and 40 bytes end inside a character, and with
nothing behind it otherwise. So a text of at most 40 bytes is shown as it is, and there are never
more than 40 characters. Where the node is the first flagged one of a source that is refused, this
failure is what the parse comes to. -/
theorem snippet_whole_characters {source text : List Char} {flagged : Tree}
    (spans : flagged.Spans source text) :
    (Node.root 0 (encode source) flagged).text = String.ofList text ∧
      (∃ whole, Fills 40 text whole ∧
        (snippet (encode source) flagged).toList =
          whole ++ if Severs 40 text then ['\uFFFD'] else []) ∧
      ((encode text).length ≤ 40 →
        snippet (encode source) flagged = String.ofList text) ∧
      (snippet (encode source) flagged).length ≤ 40 ∧
      ∀ grammars choice o serial,
        (grammars choice.dialect (encode source)).firstFlagged? = some flagged →
        (∀ dialect, choice.fallback = some dialect →
          (grammars dialect (encode source)).hasError = true) →
        parseWith grammars choice o serial (encode source) =
          .quiet (.error (.brokenSource (o.filename.map Path.toString)
            (Node.root 0 (encode source) flagged).line
            (Node.root 0 (encode source) flagged).column (snippet (encode source) flagged))) := by
  obtain ⟨whole, fills⟩ := exists_fills 40 text
  refine ⟨spans.text_eq, ⟨whole, fills, ?_⟩, spans.snippet_eq_of_le, spans.length_snippet_le, ?_⟩
  · rw [spans.snippet_eq fills, String.toList_ofList]
    rfl
  · intro grammars choice o serial first second
    exact parseWith_refused first second o serial

/-! ## An example -/

namespace SeveredCharacter

/-- Characters of three bytes each. -/
def text : List Char := List.replicate 14 '€'

def source : List Char := ['x', '='] ++ text

/-- What the grammar makes no sense of. -/
def flagged : Tree := ⟨"ERROR", true, false, true, 2, 44, [], []⟩

def grammars : Grammars :=
  fun _ _ => ⟨⟨"program", true, false, false, 0, 44, [flagged], []⟩, true⟩

theorem spans : flagged.Spans source text := ⟨['x', '='], [], by decide, by decide, by decide⟩

theorem shown : snippet (encode source) flagged = "€€€€€€€€€€€€€\uFFFD" := by
  cbv

end SeveredCharacter

open SeveredCharacter in
/-- Thirteen of the fourteen characters fit, and the cut goes through the last one. -/
theorem snippet_whole_characters_severed :
    flagged.Spans source text ∧ Severs 40 text ∧ Fills 40 text (List.replicate 13 '€') ∧
      parseWith grammars ⟨.typescript, none⟩ Options.empty 0 (encode source) =
        .quiet (.error (.brokenSource none 1 2 "€€€€€€€€€€€€€\uFFFD")) := by
  obtain ⟨-, ⟨whole, fills, eq⟩, -, -, fails⟩ := snippet_whole_characters spans
  have severs : Severs 40 text := by decide
  have same : List.replicate 13 '€' ++ ['\uFFFD'] = whole ++ ['\uFFFD'] := by
    rw [shown, if_pos severs] at eq
    exact eq
  obtain rfl := List.append_cancel_right same
  have refused := fails grammars ⟨.typescript, none⟩ Options.empty 0 rfl (by simp)
  rw [shown] at refused
  exact ⟨spans, severs, fills, refused⟩

end ExportTrail
