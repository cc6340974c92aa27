/-
Texts in an address: bytes written as a percent sign and two digits.

Encoding writes the bytes of a text's UTF-8 form; the characters that are allowed
as they are stay. Decoding reads the bytes back. What they spell need not be
UTF-8, so reading UTF-8 here never fails: wherever the bytes are no character, the
longest stretch that could have begun one is replaced by U+FFFD.
-/
set_option autoImplicit false

namespace Taskbook.Text

/-! ## Reading UTF-8 -/

/-- The replacement character. -/
def replacement : Char := '\ufffd'

/-- How many bytes follow a first byte, and the bounds of the byte after it; none
for a byte that begins no character. -/
def leadBounds? (byte : Nat) : Option (Nat × Nat × Nat) :=
  if 0xC2 ≤ byte && byte ≤ 0xDF then some (1, 0x80, 0xBF)
  else if byte = 0xE0 then some (2, 0xA0, 0xBF)
  else if byte = 0xED then some (2, 0x80, 0x9F)
  else if 0xE1 ≤ byte && byte ≤ 0xEF then some (2, 0x80, 0xBF)
  else if byte = 0xF0 then some (3, 0x90, 0xBF)
  else if 0xF1 ≤ byte && byte ≤ 0xF3 then some (3, 0x80, 0xBF)
  else if byte = 0xF4 then some (3, 0x80, 0x8F)
  else none

/-- A character that has begun: the bytes it still needs, the bounds of the next
one, and the number its bytes so far make up. -/
structure Begun where
  missing : Nat
  low : Nat
  high : Nat
  value : Nat
  deriving DecidableEq, Repr

/-- The part of a first byte that counts, when `count` bytes follow it. -/
def leadValue (byte count : Nat) : Nat :=
  byte % (1 <<< (6 - count))

/-- The characters that the bytes spell, after those of a character that may have
begun. -/
def decodeFrom : Option Begun → List Nat → List Char
  | none, [] => []
  | some _, [] => [replacement]
  | none, byte :: rest =>
    if byte < 0x80 then Char.ofNat byte :: decodeFrom none rest
    else
      match leadBounds? byte with
      | some (count, low, high) =>
        decodeFrom (some ⟨count, low, high, leadValue byte count⟩) rest
      | none => replacement :: decodeFrom none rest
  | some begun, byte :: rest =>
    if begun.low ≤ byte && byte ≤ begun.high then
      let value := begun.value * 64 + byte % 64
      match begun.missing with
      -- only the byte after the first has bounds of its own
      | 0 | 1 => Char.ofNat value :: decodeFrom none rest
      | missing + 1 => decodeFrom (some ⟨missing, 0x80, 0xBF, value⟩) rest
    -- the character is cut short, and the byte that cut it begins anew
    else if byte < 0x80 then replacement :: Char.ofNat byte :: decodeFrom none rest
    else
      match leadBounds? byte with
      | some (count, low, high) =>
        replacement :: decodeFrom (some ⟨count, low, high, leadValue byte count⟩) rest
      | none => replacement :: replacement :: decodeFrom none rest

/-! ## Percent signs -/

/-- The value of a hexadecimal digit. -/
def hexValue? (c : Char) : Option Nat :=
  if '0' ≤ c && c ≤ '9' then some (c.toNat - '0'.toNat)
  else if 'a' ≤ c && c ≤ 'f' then some (c.toNat - 'a'.toNat + 10)
  else if 'A' ≤ c && c ≤ 'F' then some (c.toNat - 'A'.toNat + 10)
  else none

/-- The bytes that a text of ASCII characters spells: two digits after a percent
sign are one byte, all else stands for itself. -/
def percentBytes : List Char → List Nat
  | '%' :: a :: b :: rest =>
    match hexValue? a, hexValue? b with
    | some high, some low => (high * 16 + low) :: percentBytes rest
    | _, _ => '%'.toNat :: percentBytes (a :: b :: rest)
  | c :: rest => c.toNat :: percentBytes rest
  | [] => []

/-- The text with its percent signs read. Characters beyond ASCII stay, and no
character is read across them. -/
def percentDecode (text : List Char) : List Char :=
  let step (c : Char) (state : List Char × List Char) : List Char × List Char :=
    if c.toNat < 0x80 then (c :: state.1, state.2)
    else ([], c :: decodeFrom none (percentBytes state.1) ++ state.2)
  let (start, rest) := text.foldr step ([], [])
  decodeFrom none (percentBytes start) ++ rest

/-- A byte as a percent sign and two digits. -/
def percentByte (byte : Nat) : List Char :=
  let digit (n : Nat) : Char := if n < 10 then Char.ofNat (48 + n) else Char.ofNat (55 + n)
  ['%', digit (byte / 16), digit (byte % 16)]

/-- The text with every byte written by its number that is not one of a letter, a
digit, `_`, `.`, `-`, `~`, or an allowed character. -/
def percentEncode (allowed : List Char) (text : String) : String :=
  String.ofList <| text.toList.flatMap fun c =>
    if c.isAlphanum || "_.-~".toList.contains c || allowed.contains c then [c]
    else (String.singleton c).toUTF8.toList.flatMap fun byte => percentByte byte.toNat

end Taskbook.Text
