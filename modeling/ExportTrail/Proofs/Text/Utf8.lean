import ExportTrail.Text.Utf8
import Mathlib

/-!
# Reading encoded texts, whole and cut

The bytes of a character are a first byte, which says how many others follow and within which bounds
the next one lies, and a tail that keeps to this (`Spells`, `exists_spells`). So a character whose
bytes are all there is read as what it is, whatever follows, and one that the bytes end in the middle
of is a single broken stretch.

* `decodeLossy_encode`: the bytes of a text are read as the text.
* `Fills.decodeLossy_take`: the first bytes of a text are read as the longest run of its characters
  that fits in them (`Fills`), with one replacement character behind it if they end inside a
  character (`Severs`).
-/

namespace ExportTrail.Text.Utf8

/-! ## The bytes of a character -/

/-- Whether bytes can follow a first byte, given the bounds of the next one. -/
def Continues : Nat → Nat → List UInt8 → Prop
  | _, _, [] => True
  | lo, hi, b :: bs => (lo ≤ b.toNat ∧ b.toNat ≤ hi) ∧ Continues 0x80 0xBF bs

/-- Whether a first byte and a tail are the bytes of a character: the first byte calls for a tail of
that length, the tail keeps to its bounds, and together they make the character. -/
structure Spells (b : UInt8) (tail : List UInt8) (c : Char) : Prop where
  led : ∃ lo hi, lead b = some (tail.length, lo, hi) ∧ Continues lo hi tail
  assembled : assemble b tail = c

section

variable {b : UInt8}

theorem lead_one (hi : b.toNat < 0x80) : lead b = some (0, 0x80, 0xBF) := by
  rw [lead, if_pos hi]

theorem lead_two (lo : 0xC2 ≤ b.toNat) (hi : b.toNat < 0xE0) : lead b = some (1, 0x80, 0xBF) := by
  rw [lead, if_neg (by omega), if_neg (by omega), if_pos hi]

/-- Two of these bytes leave fewer choices for the next one: characters below 0x800 take fewer bytes,
and there are none from 0xD800 to 0xDFFF. -/
theorem lead_three (lo : 0xE0 ≤ b.toNat) (hi : b.toNat < 0xF0) :
    lead b = some (2, if b.toNat = 0xE0 then 0xA0 else 0x80,
      if b.toNat = 0xED then 0x9F else 0xBF) := by
  rw [lead, if_neg (by omega), if_neg (by omega), if_neg (by omega)]
  grind

/-- The first and the last of these bytes leave fewer choices for the next one: characters below
0x10000 take fewer bytes, and there are none above 0x10FFFF. -/
theorem lead_four (lo : 0xF0 ≤ b.toNat) (hi : b.toNat ≤ 0xF4) :
    lead b = some (3, if b.toNat = 0xF0 then 0x90 else 0x80,
      if b.toNat = 0xF4 then 0x8F else 0xBF) := by
  rw [lead, if_neg (by omega), if_neg (by omega), if_neg (by omega), if_neg (by omega),
    if_neg (by omega), if_neg (by omega)]
  grind

end

section

variable (v : Nat)

theorem toNat_tailByte : (UInt8.ofNat (v % 0x40 + 0x80)).toNat = v % 0x40 + 0x80 :=
  UInt8.toNat_ofNat_of_lt (show _ < 256 by omega)

theorem continues_tailByte {bs : List UInt8} (h : Continues 0x80 0xBF bs) :
    Continues 0x80 0xBF (UInt8.ofNat (v % 0x40 + 0x80) :: bs) := by
  refine ⟨?_, h⟩
  rw [toNat_tailByte]
  omega

end

section

variable {v : Nat}

theorem spells_one (hi : v ≤ 0x7F) : Spells (UInt8.ofNat v) [] (Char.ofNat v) := by
  have first : (UInt8.ofNat v).toNat = v := UInt8.toNat_ofNat_of_lt (show _ < 256 by omega)
  refine ⟨⟨0x80, 0xBF, lead_one (by omega), trivial⟩, ?_⟩
  show Char.ofNat (UInt8.ofNat v).toNat = Char.ofNat v
  rw [first]

theorem spells_two (lo : 0x7F < v) (hi : v ≤ 0x7FF) :
    Spells (UInt8.ofNat (v / 64 % 0x20 + 0xC0)) [UInt8.ofNat (v % 0x40 + 0x80)]
      (Char.ofNat v) := by
  have first : (UInt8.ofNat (v / 64 % 0x20 + 0xC0)).toNat = v / 64 % 0x20 + 0xC0 :=
    UInt8.toNat_ofNat_of_lt (show _ < 256 by omega)
  refine ⟨⟨0x80, 0xBF, lead_two (by omega) (by omega), continues_tailByte v trivial⟩, ?_⟩
  show Char.ofNat (64 * (_ % 32) + _ % 64) = Char.ofNat v
  rw [first, toNat_tailByte]
  congr 1
  omega

theorem spells_three (lo : 0x7FF < v) (hi : v ≤ 0xFFFF) (valid : v < 0xD800 ∨ 0xDFFF < v) :
    Spells (UInt8.ofNat (v / 4096 % 0x10 + 0xE0))
      [UInt8.ofNat (v / 64 % 0x40 + 0x80), UInt8.ofNat (v % 0x40 + 0x80)] (Char.ofNat v) := by
  have first : (UInt8.ofNat (v / 4096 % 0x10 + 0xE0)).toNat = v / 4096 % 0x10 + 0xE0 :=
    UInt8.toNat_ofNat_of_lt (show _ < 256 by omega)
  refine ⟨⟨_, _, lead_three (by omega) (by omega), ?_, continues_tailByte v trivial⟩, ?_⟩
  · rw [first, toNat_tailByte]
    split <;> split <;> omega
  · show Char.ofNat (64 * (64 * (_ % 16) + _ % 64) + _ % 64) = Char.ofNat v
    rw [first, toNat_tailByte, toNat_tailByte]
    congr 1
    omega

theorem spells_four (lo : 0xFFFF < v) (hi : v < 0x110000) :
    Spells (UInt8.ofNat (v / 262144 % 0x08 + 0xF0))
      [UInt8.ofNat (v / 4096 % 0x40 + 0x80), UInt8.ofNat (v / 64 % 0x40 + 0x80),
        UInt8.ofNat (v % 0x40 + 0x80)] (Char.ofNat v) := by
  have first : (UInt8.ofNat (v / 262144 % 0x08 + 0xF0)).toNat = v / 262144 % 0x08 + 0xF0 :=
    UInt8.toNat_ofNat_of_lt (show _ < 256 by omega)
  refine ⟨⟨_, _, lead_four (by omega) (by omega), ?_,
    continues_tailByte (v / 64) (continues_tailByte v trivial)⟩, ?_⟩
  · rw [first, toNat_tailByte]
    split <;> split <;> omega
  · show Char.ofNat (64 * (64 * (64 * (_ % 8) + _ % 64) + _ % 64) + _ % 64) = Char.ofNat v
    rw [first, toNat_tailByte, toNat_tailByte, toNat_tailByte]
    congr 1
    omega

end

/-- Every character is written with a first byte and the tail that this calls for. -/
theorem exists_spells (c : Char) :
    ∃ b tail, String.utf8EncodeChar c = b :: tail ∧ Spells b tail c := by
  have valid : c.val.toNat < 0xD800 ∨ 0xDFFF < c.val.toNat ∧ c.val.toNat < 0x110000 := c.valid
  have same : Char.ofNat c.val.toNat = c := Char.ofNat_toNat c
  unfold String.utf8EncodeChar
  dsimp only
  generalize c.val.toNat = v at valid same
  subst same
  split
  · next one => exact ⟨_, _, rfl, spells_one one⟩
  split
  · next one two => exact ⟨_, _, rfl, spells_two (by omega) two⟩
  split
  · next two three => exact ⟨_, _, rfl, spells_three (by omega) three (by omega)⟩
  · next three => exact ⟨_, _, rfl, spells_four (by omega) (by omega)⟩

/-! ## The first piece -/

theorem Continues.take {lo hi : Nat} {bs : List UInt8} (h : Continues lo hi bs) (n : Nat) :
    Continues lo hi (bs.take n) := by
  induction bs generalizing lo hi n with
  | nil => rwa [List.take_nil]
  | cons b bs ih =>
    cases n with
    | zero => trivial
    | succ n => exact ⟨h.1, ih h.2 n⟩

theorem continuation_eq_take {owed lo hi : Nat} {bs : List UInt8}
    (h : Continues lo hi (bs.take owed)) : continuation owed lo hi bs = bs.take owed := by
  fun_induction continuation owed lo hi bs with
  | case1 => rfl
  | case2 => rfl
  | case3 owed lo hi b bs within ih => rw [List.take_succ_cons, ih h.2]
  | case4 owed lo hi b bs outside => exact absurd h.1 outside

section

variable {b : UInt8} {tail : List UInt8} {c : Char}

theorem Spells.nextPiece_append (h : Spells b tail c) (rest : List UInt8) :
    nextPiece b (tail ++ rest) = (.char c, rest) := by
  obtain ⟨lo, hi, led, continues⟩ := h.led
  have whole : continuation tail.length lo hi (tail ++ rest) = tail := by
    rw [continuation_eq_take (by rwa [List.take_left]), List.take_left]
  unfold nextPiece
  simp only [led, whole, List.drop_left, if_true, h.assembled]

/-- A character without its end is broken, and all that is left of it makes one piece. -/
theorem Spells.nextPiece_take (h : Spells b tail c) {n : Nat} (short : n < tail.length) :
    nextPiece b (tail.take n) = (.broken (b :: tail.take n) .unexpectedEnd, []) := by
  obtain ⟨lo, hi, led, continues⟩ := h.led
  have all : (tail.take n).take tail.length = tail.take n :=
    List.take_of_length_le (by rw [List.length_take]; omega)
  have left : continuation tail.length lo hi (tail.take n) = tail.take n := by
    rw [continuation_eq_take (by rw [all]; exact continues.take n), all]
  have shorter : (tail.take n).length ≠ tail.length := by
    rw [List.length_take]
    omega
  unfold nextPiece
  simp only [led, left, List.drop_length, if_neg shorter, if_true]

end

/-! ## Pieces -/

theorem pieces_nil : pieces [] = [] := by
  rw [pieces]

theorem pieces_char_append (c : Char) (rest : List UInt8) :
    pieces (String.utf8EncodeChar c ++ rest) = .char c :: pieces rest := by
  obtain ⟨b, tail, eq, spells⟩ := exists_spells c
  rw [eq, List.cons_append, pieces, spells.nextPiece_append]

theorem pieces_char_take {c : Char} {n : Nat} (nonempty : 0 < n) (short : n < c.utf8Size) :
    pieces ((String.utf8EncodeChar c).take n) =
      [.broken ((String.utf8EncodeChar c).take n) .unexpectedEnd] := by
  obtain ⟨b, tail, eq, spells⟩ := exists_spells c
  obtain ⟨n, rfl⟩ := Nat.exists_eq_succ_of_ne_zero nonempty.ne'
  have size : tail.length + 1 = c.utf8Size := by
    rw [← String.length_utf8EncodeChar, eq, List.length_cons]
  rw [eq, List.take_succ_cons, pieces, spells.nextPiece_take (by omega), pieces_nil]

/-! ## Encoded texts -/

theorem encode_cons (c : Char) (s : List Char) :
    encode (c :: s) = String.utf8EncodeChar c ++ encode s := List.flatMap_cons

theorem encode_append (s t : List Char) : encode (s ++ t) = encode s ++ encode t :=
  List.flatMap_append

theorem length_encode_cons (c : Char) (s : List Char) :
    (encode (c :: s)).length = c.utf8Size + (encode s).length := by
  rw [encode_cons, List.length_append, String.length_utf8EncodeChar]

theorem length_encode_mono {s t : List Char} (h : s <+: t) :
    (encode s).length ≤ (encode t).length := by
  obtain ⟨rest, rfl⟩ := h
  rw [encode_append, List.length_append]
  exact Nat.le_add_right _ _

/-- A character takes at least one byte. -/
theorem length_le_length_encode (s : List Char) : s.length ≤ (encode s).length := by
  induction s with
  | nil => exact Nat.le_refl 0
  | cons c s ih =>
    have pos := c.utf8Size_pos
    rw [length_encode_cons, List.length_cons]
    omega

theorem decodeLossy_encode_append (s : List Char) (rest : List UInt8) :
    decodeLossy (encode s ++ rest) = s ++ decodeLossy rest := by
  induction s with
  | nil => rfl
  | cons c s ih =>
    rw [decodeLossy] at ih ⊢
    rw [encode_cons, List.append_assoc, pieces_char_append, List.map_cons, ih]
    rfl

/-- The bytes of a text are read as the text. -/
theorem decodeLossy_encode (s : List Char) : decodeLossy (encode s) = s := by
  have none : decodeLossy [] = [] := by rw [decodeLossy, pieces_nil, List.map_nil]
  have all := decodeLossy_encode_append s []
  rwa [List.append_nil, none, List.append_nil] at all

theorem decodeLossy_char_take {c : Char} {n : Nat} (nonempty : 0 < n) (short : n < c.utf8Size) :
    decodeLossy ((String.utf8EncodeChar c).take n) = ['\uFFFD'] := by
  rw [decodeLossy, pieces_char_take nonempty short]
  rfl

/-! ## Where a text is cut -/

/-- Whether the byte at an offset is the first of a character, or the offset that of the end. -/
def Boundary (s : List Char) (n : Nat) : Prop :=
  ∃ before, before <+: s ∧ (encode before).length = n

instance (s : List Char) (n : Nat) : Decidable (Boundary s n) :=
  decidable_of_iff (∃ before ∈ s.inits, (encode before).length = n) (by
    simp only [List.mem_inits, Boundary])

/-- Whether a text that is cut behind a number of bytes is cut inside a character. -/
def Severs (n : Nat) (s : List Char) : Prop :=
  n < (encode s).length ∧ ¬ Boundary s n

instance (n : Nat) (s : List Char) : Decidable (Severs n s) :=
  inferInstanceAs (Decidable (_ ∧ ¬ _))

/-- Whether a run of characters is the longest one at the front of a text that fits in a number of
bytes. -/
structure Fills (n : Nat) (s whole : List Char) : Prop where
  front : whole <+: s
  fits : (encode whole).length ≤ n
  longest : ∀ other, other <+: s → (encode other).length ≤ n → other.length ≤ whole.length

theorem fills_nil (n : Nat) : Fills n [] [] :=
  ⟨List.prefix_rfl, Nat.zero_le n, fun _ front _ => front.length_le⟩

theorem fills_nil_of_lt {n : Nat} {c : Char} (large : n < c.utf8Size) (s : List Char) :
    Fills n (c :: s) [] := by
  refine ⟨List.nil_prefix, Nat.zero_le n, fun other front fits => ?_⟩
  cases other with
  | nil => exact Nat.le_refl 0
  | cons d other =>
    obtain ⟨rfl, -⟩ := List.cons_prefix_cons.1 front
    rw [length_encode_cons] at fits
    omega

namespace Fills

variable {n : Nat} {s whole : List Char}

theorem cons {c : Char} (small : c.utf8Size ≤ n) (h : Fills (n - c.utf8Size) s whole) :
    Fills n (c :: s) (c :: whole) := by
  refine ⟨List.cons_prefix_cons.2 ⟨rfl, h.front⟩, ?_, fun other front fits => ?_⟩
  · have fits := h.fits
    rw [length_encode_cons]
    omega
  · cases other with
    | nil => exact Nat.zero_le _
    | cons d other =>
      obtain ⟨rfl, behind⟩ := List.cons_prefix_cons.1 front
      rw [length_encode_cons] at fits
      exact Nat.succ_le_succ (h.longest other behind (by omega))

theorem prefix_of_fits (h : Fills n s whole) {other : List Char} (front : other <+: s)
    (fits : (encode other).length ≤ n) : other <+: whole :=
  List.prefix_of_prefix_length_le front h.front (h.longest other front fits)

/-- A text that fits is its own longest run. -/
theorem eq_of_fits (h : Fills n s whole) (fits : (encode s).length ≤ n) : whole = s :=
  h.front.eq_of_length_le (h.longest s List.prefix_rfl fits)

/-- A cut inside a character leaves bytes behind the longest run. -/
theorem lt_of_severs (h : Fills n s whole) (severs : Severs n s) : (encode whole).length < n :=
  Nat.lt_of_le_of_ne h.fits fun eq => severs.2 ⟨whole, h.front, eq⟩

section

variable {c : Char} {rest : List Char}

theorem lt_of_next (h : Fills n (whole ++ c :: rest) whole) :
    n < (encode whole).length + c.utf8Size := by
  by_contra fits
  have front : whole ++ [c] <+: whole ++ c :: rest := ⟨rest, by simp⟩
  have fits' : (encode (whole ++ [c])).length ≤ n := by
    rw [encode_append, List.length_append, length_encode_cons]
    exact Nat.not_lt.1 fits
  have longer := h.longest (whole ++ [c]) front fits'
  rw [List.length_append, List.length_singleton] at longer
  omega

theorem severs_iff (h : Fills n (whole ++ c :: rest) whole) :
    Severs n (whole ++ c :: rest) ↔ (encode whole).length < n := by
  refine ⟨h.lt_of_severs, fun less => ⟨?_, ?_⟩⟩
  · have next := h.lt_of_next
    rw [encode_append, List.length_append, length_encode_cons]
    omega
  · rintro ⟨before, front, eq⟩
    have le := length_encode_mono (h.prefix_of_fits front eq.le)
    omega

end

/-- **The first bytes of a text are read as the longest run of characters that fits in them**, and
one replacement character if they end inside a character. -/
theorem decodeLossy_take (h : Fills n s whole) :
    decodeLossy ((encode s).take n) = whole ++ if Severs n s then ['\uFFFD'] else [] := by
  obtain ⟨rest, rfl⟩ := h.front
  cases rest with
  | nil =>
    rw [List.append_nil] at h ⊢
    have unsevered : ¬ Severs n whole := fun severs => Nat.not_lt.2 h.fits severs.1
    rw [List.take_of_length_le h.fits, decodeLossy_encode, if_neg unsevered, List.append_nil]
  | cons c rest =>
    have next := h.lt_of_next
    -- what is left behind the run is less than the next character
    have cut : (encode (whole ++ c :: rest)).take n =
        encode whole ++ (String.utf8EncodeChar c).take (n - (encode whole).length) := by
      rw [encode_append, List.take_append, List.take_of_length_le h.fits, encode_cons,
        List.take_append_of_le_length (by rw [String.length_utf8EncodeChar]; omega)]
    rw [cut, decodeLossy_encode_append]
    congr 1
    split
    · next severs =>
      have less := h.lt_of_severs severs
      exact decodeLossy_char_take (by omega) (by omega)
    · next unsevered =>
      have full := mt h.severs_iff.2 unsevered
      rw [Nat.sub_eq_zero_of_le (by omega), List.take_zero]
      exact decodeLossy_encode []

/-- All cuts of a text with characters of two, three and four bytes. -/
example :
    (List.range 10).map (fun n => decodeLossy ((encode ['é', '€', '😀']).take n)) =
      [[], ['\uFFFD'], ['é'], ['é', '\uFFFD'], ['é', '\uFFFD'], ['é', '€'],
        ['é', '€', '\uFFFD'], ['é', '€', '\uFFFD'], ['é', '€', '\uFFFD'], ['é', '€', '😀']] := by
  cbv

end Fills

theorem exists_fills (n : Nat) (s : List Char) : ∃ whole, Fills n s whole := by
  induction s generalizing n with
  | nil => exact ⟨[], fills_nil n⟩
  | cons c s ih =>
    by_cases small : c.utf8Size ≤ n
    · obtain ⟨whole, fills⟩ := ih (n - c.utf8Size)
      exact ⟨c :: whole, fills.cons small⟩
    · exact ⟨[], fills_nil_of_lt (Nat.not_le.1 small) s⟩

end ExportTrail.Text.Utf8
