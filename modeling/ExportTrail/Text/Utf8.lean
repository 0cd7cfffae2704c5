import ExportTrail.Text.Hex

/-!
# UTF-8

Bytes are cut into `Piece`s: characters, and broken stretches. A broken stretch is the longest run
of bytes that some character starts with, or a single byte that starts no character. Two decoders
read the pieces: `decode` refuses the first broken stretch and says where it stands and why it is
broken; `decodeLossy` puts one replacement character for each.
-/

namespace ExportTrail.Text.Utf8

/-- Why a stretch of bytes is no character. -/
inductive Cause
  /-- No character starts with this byte. -/
  | invalidStart
  /-- The next byte does not continue the character. -/
  | invalidContinuation
  /-- The bytes end before the character does. -/
  | unexpectedEnd
  deriving DecidableEq, Repr

/-- The wording of a cause. -/
def Cause.message : Cause → String
  | .invalidStart => "invalid start byte"
  | .invalidContinuation => "invalid continuation byte"
  | .unexpectedEnd => "unexpected end of data"

/-- A stretch of bytes: a character, or bytes that are none. -/
inductive Piece
  /-- The bytes of a character. -/
  | char (c : Char)
  /-- A broken stretch. -/
  | broken (bytes : List UInt8) (cause : Cause)
  deriving DecidableEq, Repr

/-- The number of bytes that follow the first byte of a character, and the bounds of the next. -/
def lead (b : UInt8) : Option (Nat × Nat × Nat) :=
  let n := b.toNat
  if n < 0x80 then some (0, 0x80, 0xBF)
  else if n < 0xC2 then none
  else if n < 0xE0 then some (1, 0x80, 0xBF)
  else if n = 0xE0 then some (2, 0xA0, 0xBF)
  else if n = 0xED then some (2, 0x80, 0x9F)
  else if n < 0xF0 then some (2, 0x80, 0xBF)
  else if n = 0xF0 then some (3, 0x90, 0xBF)
  else if n < 0xF4 then some (3, 0x80, 0xBF)
  else if n = 0xF4 then some (3, 0x80, 0x8F)
  else none

/-- The longest run of at most `owed` continuation bytes, the first of them between `lo` and
`hi`. -/
def continuation : Nat → Nat → Nat → List UInt8 → List UInt8
  | 0, _, _, _ => []
  | _ + 1, _, _, [] => []
  | owed + 1, lo, hi, b :: bs =>
    if lo ≤ b.toNat ∧ b.toNat ≤ hi then b :: continuation owed 0x80 0xBF bs else []

/-- The character with a given first byte and continuation. -/
def assemble (b : UInt8) (tail : List UInt8) : Char :=
  let first := if tail = [] then b.toNat else b.toNat % Nat.pow 2 (6 - tail.length)
  Char.ofNat (tail.foldl (fun n t => 64 * n + t.toNat % 64) first)

/-- The first piece of a non-empty list of bytes, and the bytes after it. -/
def nextPiece (b : UInt8) (bs : List UInt8) : Piece × List UInt8 :=
  match lead b with
  | none => (.broken [b] .invalidStart, bs)
  | some (owed, lo, hi) =>
    let tail := continuation owed lo hi bs
    let rest := bs.drop tail.length
    if tail.length = owed then (.char (assemble b tail), rest)
    else (.broken (b :: tail) (if rest = [] then .unexpectedEnd else .invalidContinuation), rest)

theorem length_nextPiece_le (b : UInt8) (bs : List UInt8) :
    (nextPiece b bs).2.length ≤ bs.length := by
  unfold nextPiece
  split
  · simp
  · dsimp only
    split <;> simp

/-- The pieces of a list of bytes. -/
def pieces : List UInt8 → List Piece
  | [] => []
  | b :: bs => (nextPiece b bs).1 :: pieces (nextPiece b bs).2
termination_by bs => bs.length
decreasing_by exact Nat.lt_succ_of_le (length_nextPiece_le b bs)

/-- A broken stretch and the position of its first byte. -/
structure Malformed where
  position : Nat
  bytes : List UInt8
  cause : Cause
  deriving DecidableEq, Repr

/-- Names the byte where there is one, and the positions where there are several. -/
def Malformed.message (m : Malformed) : String :=
  let what := match m.bytes with
    | [b] => "byte 0x" ++ String.ofList (hex 2 b.toNat) ++ " in position " ++ toString m.position
    | bs => "bytes in position " ++ toString m.position ++ "-" ++
        toString (m.position + bs.length - 1)
  "'utf-8' codec can't decode " ++ what ++ ": " ++ m.cause.message

/-- The characters of the pieces, the first of which stands at `position`. -/
def decodePieces (position : Nat) : List Piece → Except Malformed (List Char)
  | [] => .ok []
  | .char c :: ps =>
    match decodePieces (position + c.utf8Size) ps with
    | .ok s => .ok (c :: s)
    | .error m => .error m
  | .broken bytes cause :: _ => .error ⟨position, bytes, cause⟩

/-- The characters that the bytes encode, or the first stretch that encodes none. -/
def decode (bs : List UInt8) : Except Malformed (List Char) :=
  decodePieces 0 (pieces bs)

/-- The replacement character stands for a broken stretch. -/
def Piece.toChar : Piece → Char
  | .char c => c
  | .broken _ _ => '\uFFFD'

/-- The characters that the bytes encode, with a replacement character for each broken stretch. -/
def decodeLossy (bs : List UInt8) : List Char :=
  (pieces bs).map Piece.toChar

/-- The bytes of a text. -/
def encode (s : List Char) : List UInt8 :=
  s.flatMap String.utf8EncodeChar

end ExportTrail.Text.Utf8
