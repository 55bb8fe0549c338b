/-!
# Texts and bytes

A text is written as bytes in UTF-8. Reading bytes never fails: the longest beginning of a character
that cannot be completed stands for one replacement character, and so does a byte that begins none.
-/

set_option autoImplicit false

namespace TaskGraph.Text

/-- Bytes in a row. -/
abbrev Bytes := List UInt8

/-- The bytes of a text. -/
def bytes (s : String) : Bytes := s.toUTF8.toList

/-- The character that stands for what cannot be read. -/
def replacement : Char := '\ufffd'

/-- What a first byte says of its character: its share of the code point, the number of bytes that
follow, and the range of the next one. -/
def lead? (b : UInt8) : Option (Nat × Nat × UInt8 × UInt8) :=
  let n := b.toNat
  if 0xC2 ≤ b ∧ b ≤ 0xDF then some (n - 0xC0, 1, 0x80, 0xBF)
  else if b = 0xE0 then some (0, 2, 0xA0, 0xBF)
  else if b = 0xED then some (0xD, 2, 0x80, 0x9F)
  else if 0xE1 ≤ b ∧ b ≤ 0xEF then some (n - 0xE0, 2, 0x80, 0xBF)
  else if b = 0xF0 then some (0, 3, 0x90, 0xBF)
  else if 0xF1 ≤ b ∧ b ≤ 0xF3 then some (n - 0xF0, 3, 0x80, 0xBF)
  else if b = 0xF4 then some (4, 3, 0x80, 0x8F)
  else none

/-- Reads the bytes of a character behind its first one. -/
def continued (share : Nat) : Nat → UInt8 → UInt8 → Bytes → Char × Bytes
  | 0, _, _, bs => (Char.ofNat share, bs)
  | _ + 1, _, _, [] => (replacement, [])
  | more + 1, low, high, b :: bs =>
    if low ≤ b ∧ b ≤ high then continued (64 * share + b.toNat % 64) more 0x80 0xBF bs
    else (replacement, b :: bs)

/-- Reads a character. -/
def readChar (b : UInt8) (bs : Bytes) : Char × Bytes :=
  if b < 0x80 then (Char.ofNat b.toNat, bs)
  else match lead? b with
    | some (share, more, low, high) => continued share more low high bs
    | none => (replacement, bs)

/-- Reads characters; the fuel bounds their number. -/
def readChars : Nat → Bytes → List Char
  | 0, _ => []
  | _ + 1, [] => []
  | fuel + 1, b :: bs =>
    let (c, rest) := readChar b bs
    c :: readChars fuel rest

/-- The text that bytes stand for. -/
def ofBytes (bs : Bytes) : String := String.ofList (readChars bs.length bs)

/-- The text whose bytes these are, if there is one. -/
def exactText? (bs : Bytes) : Option String :=
  let s := ofBytes bs
  if bytes s = bs then some s else none

/-- Where bytes stop being a text, and how many bytes are wrong there; no number if the bytes only end
too early. -/
def flawFrom? : Nat → Nat → Bytes → Option (Nat × Option Nat)
  | 0, _, _ => none
  | _ + 1, _, [] => none
  | fuel + 1, index, b :: bs =>
    let (c, rest) := readChar b bs
    let count := bs.length + 1 - rest.length
    if bytes (String.singleton c) = (b :: bs).take count then flawFrom? fuel (index + count) rest
    else if rest.isEmpty && (lead? b).isSome then some (index, none)
    else some (index, some count)

/-- What is wrong with bytes that are no text. -/
def flaw (bs : Bytes) : String :=
  match flawFrom? bs.length 0 bs with
  | some (index, some count) =>
    "invalid utf-8 sequence of " ++ Nat.repr count ++ " bytes from index " ++ Nat.repr index
  | some (index, none) => "incomplete utf-8 byte sequence from index " ++ Nat.repr index
  | none => ""

end TaskGraph.Text
