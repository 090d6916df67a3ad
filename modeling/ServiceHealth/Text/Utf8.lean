/-!
# Reading bytes as UTF-8

A byte sequence falls into *pieces*: a piece is either the encoding of one
character or a maximal invalid part, which is the longest start of an encoding
that the following bytes do not complete (or a single byte that starts none).
Strict reading accepts a sequence without invalid parts; lossy reading puts the
replacement character in the place of each of them.
-/

namespace ServiceHealth.Text.Utf8

/-- One piece of a byte sequence. -/
inductive Piece where
  | char (c : Char)
  | invalid
  deriving DecidableEq

/-- What a leading byte announces: how many bytes follow, which values the first
of them may have, and the bits that the leading byte itself contributes.  The
bounds on the first following byte exclude overlong forms, surrogates and values
above U+10FFFF. -/
structure Lead where
  following : Nat
  low : Nat
  high : Nat
  bits : Nat

/-- The announcement of a leading byte of 128 or more, if it can lead. -/
def lead? (byte : Nat) : Option Lead :=
  if byte < 0xC2 then none
  else if byte < 0xE0 then some ⟨1, 0x80, 0xBF, byte - 0xC0⟩
  else if byte = 0xE0 then some ⟨2, 0xA0, 0xBF, 0⟩
  else if byte = 0xED then some ⟨2, 0x80, 0x9F, 0xD⟩
  else if byte < 0xF0 then some ⟨2, 0x80, 0xBF, byte - 0xE0⟩
  else if byte = 0xF0 then some ⟨3, 0x90, 0xBF, 0⟩
  else if byte < 0xF4 then some ⟨3, 0x80, 0xBF, byte - 0xF0⟩
  else if byte = 0xF4 then some ⟨3, 0x80, 0x8F, 4⟩
  else none

/-- Completes an encoding of which `following` bytes are outstanding and `bits`
have been read. -/
def complete : (following low high bits : Nat) → List UInt8 → Piece × List UInt8
  | 0, _, _, bits, rest => (.char (Char.ofNat bits), rest)
  | _ + 1, _, _, _, [] => (.invalid, [])
  | following + 1, low, high, bits, byte :: rest =>
    if low ≤ byte.toNat ∧ byte.toNat ≤ high then
      complete following 0x80 0xBF (bits * 64 + (byte.toNat - 0x80)) rest
    else (.invalid, byte :: rest)

/-- The piece that starts with the given byte, and the bytes after it. -/
def piece (byte : UInt8) (rest : List UInt8) : Piece × List UInt8 :=
  if byte.toNat < 0x80 then (.char (Char.ofNat byte.toNat), rest)
  else
    match lead? byte.toNat with
    | none => (.invalid, rest)
    | some lead => complete lead.following lead.low lead.high lead.bits rest

theorem length_complete_le (following low high bits : Nat) (bytes : List UInt8) :
    (complete following low high bits bytes).2.length ≤ bytes.length := by
  induction following generalizing low high bits bytes with
  | zero => simp [complete]
  | succ following ih =>
    cases bytes with
    | nil => simp [complete]
    | cons byte rest =>
      simp only [complete]
      split
      · exact Nat.le_succ_of_le (ih ..)
      · simp

theorem length_piece_le (byte : UInt8) (rest : List UInt8) :
    (piece byte rest).2.length ≤ rest.length := by
  unfold piece
  split
  · simp
  · split
    · simp
    · exact length_complete_le ..

/-- The pieces of a byte sequence, in order. -/
def pieces : List UInt8 → List Piece
  | [] => []
  | byte :: rest => (piece byte rest).1 :: pieces (piece byte rest).2
termination_by bytes => bytes.length
decreasing_by
  have := length_piece_le byte rest
  simp only [List.length_cons]
  omega

/-- The character of a piece, with U+FFFD for an invalid part. -/
def Piece.toChar : Piece → Char
  | .char c => c
  | .invalid => Char.ofNat 0xFFFD

/-- The character of a piece, if it has one. -/
def Piece.char? : Piece → Option Char
  | .char c => some c
  | .invalid => none

/-- Reads bytes as text, with one U+FFFD for each maximal invalid part. -/
def decodeLossy (bytes : List UInt8) : String :=
  String.ofList ((pieces bytes).map Piece.toChar)

/-- Reads bytes as the characters of a text, or nothing if some part is invalid. -/
def decodeChars? (bytes : List UInt8) : Option (List Char) :=
  (pieces bytes).mapM Piece.char?

/-- Reads bytes as text, or nothing if some part is invalid. -/
def decode? (bytes : List UInt8) : Option String :=
  (decodeChars? bytes).map String.ofList

/-- The bytes of a text. -/
def encode (text : String) : List UInt8 :=
  text.toUTF8.toList

end ServiceHealth.Text.Utf8
