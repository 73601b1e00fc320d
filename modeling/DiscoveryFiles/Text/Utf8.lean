import DiscoveryFiles.Text.Basic

/-!
# UTF-8

Bytes are read by a machine that is either between characters or inside an unfinished one.  A byte
that cannot continue the unfinished character ends it as damaged and is read again as the start of
the next one, so a line feed always stands for itself.
-/

namespace DiscoveryFiles
namespace Utf8

/-- Why some bytes are not a character. -/
inductive Damage where
  /-- No character starts with this byte. -/
  | start
  /-- The next byte does not continue the character. -/
  | continuation
  /-- The bytes end inside the character. -/
  | ending
  deriving DecidableEq, Repr

/-- The wording of a kind of damage. -/
def Damage.message : Damage → String
  | start => "invalid start byte"
  | continuation => "invalid continuation byte"
  | ending => "unexpected end of data"

/-- What a run of bytes was read as. -/
inductive Piece where
  /-- A well-formed character. -/
  | char (c : Char)
  /-- The longest start of a character that the next byte does not continue. -/
  | damaged (bytes : List UInt8) (damage : Damage)
  deriving DecidableEq, Repr

/-- An unfinished character. -/
structure Unfinished where
  /-- The bytes read so far, the latest first. -/
  seen : List UInt8
  /-- The bits of the code point read so far. -/
  value : Nat
  /-- The least byte that may come next. -/
  low : Nat
  /-- The greatest byte that may come next. -/
  high : Nat
  /-- How many bytes follow the next one. -/
  more : Nat

/-- The effect of a byte that does not belong to an earlier one. -/
def start (byte : UInt8) : List Piece × Option Unfinished :=
  let b := byte.toNat
  if b < 0x80 then ([.char (Char.ofNat b)], none)
  else if b < 0xC2 then ([.damaged [byte] .start], none)
  else if b < 0xE0 then ([], some ⟨[byte], b - 0xC0, 0x80, 0xBF, 0⟩)
  else if b < 0xF0 then
    let low := if b = 0xE0 then 0xA0 else 0x80
    let high := if b = 0xED then 0x9F else 0xBF
    ([], some ⟨[byte], b - 0xE0, low, high, 1⟩)
  else if b < 0xF5 then
    let low := if b = 0xF0 then 0x90 else 0x80
    let high := if b = 0xF4 then 0x8F else 0xBF
    ([], some ⟨[byte], b - 0xF0, low, high, 2⟩)
  else ([.damaged [byte] .start], none)

/-- The effect of a byte on an unfinished character. -/
def advance (char : Unfinished) (byte : UInt8) : List Piece × Option Unfinished :=
  let b := byte.toNat
  if char.low ≤ b ∧ b ≤ char.high then
    let value := char.value * 64 + (b - 0x80)
    match char.more with
    | 0 => ([.char (Char.ofNat value)], none)
    | more + 1 => ([], some ⟨byte :: char.seen, value, 0x80, 0xBF, more⟩)
  else
    let (pieces, next) := start byte
    (.damaged char.seen.reverse .continuation :: pieces, next)

/-- Read the bytes that follow, given the unfinished character before them. -/
def piecesFrom : Option Unfinished → List UInt8 → List Piece
  | none, [] => []
  | some char, [] => [.damaged char.seen.reverse .ending]
  | state, byte :: rest =>
      let (pieces, next) := match state with
        | none => start byte
        | some char => advance char byte
      pieces ++ piecesFrom next rest

/-- Read bytes as characters and damaged runs. -/
def pieces (bytes : List UInt8) : List Piece :=
  piecesFrom none bytes

/-- The character that stands for a piece: a damaged run becomes one replacement character. -/
def Piece.shown : Piece → Char
  | char c => c
  | damaged _ _ => Char.ofNat 0xFFFD

/-- The text of some bytes, where each damaged run becomes one replacement character. -/
def decodeLossy (bytes : List UInt8) : Text :=
  (pieces bytes).map Piece.shown

/-- The bytes of a text. -/
def encode (text : Text) : List UInt8 :=
  text.flatMap String.utf8EncodeChar

/-- A damaged run and its place in the bytes. -/
structure Error where
  /-- Number of bytes before the run. -/
  offset : Nat
  /-- The bytes of the run. -/
  bytes : List UInt8
  /-- What is wrong with them. -/
  damage : Damage
  deriving DecidableEq, Repr

/-- The two hexadecimal digits of a byte. -/
def byteDigits (byte : UInt8) : String :=
  String.ofList [Nat.digitChar (byte.toNat / 16), Nat.digitChar (byte.toNat % 16)]

/-- The wording of an error. -/
def Error.message (error : Error) : String :=
  let place :=
    match error.bytes with
    | [byte] => "byte 0x" ++ byteDigits byte ++ " in position " ++ toString error.offset
    | bytes =>
        "bytes in position " ++ toString error.offset ++ "-" ++
          toString (error.offset + bytes.length - 1)
  "'utf-8' codec can't decode " ++ place ++ ": " ++ error.damage.message

/-- The text of some pieces, or their first damaged run, given the number of bytes before them. -/
def textFrom (offset : Nat) : List Piece → Except Error Text
  | [] => .ok []
  | .char c :: rest => (textFrom (offset + c.utf8Size) rest).map (c :: ·)
  | .damaged bytes damage :: _ => .error ⟨offset, bytes, damage⟩

/-- The text of some bytes, or their first damaged run. -/
def decode (bytes : List UInt8) : Except Error Text :=
  textFrom 0 (pieces bytes)

end Utf8

namespace Text

/-- The text with every line break written as a line feed. -/
def unifyBreaks : Text → Text
  | [] => []
  | '\r' :: '\n' :: rest => '\n' :: unifyBreaks rest
  | '\r' :: rest => '\n' :: unifyBreaks rest
  | c :: rest => c :: unifyBreaks rest

end Text
end DiscoveryFiles
