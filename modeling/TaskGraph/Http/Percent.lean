import TaskGraph.Decimal.Numeral
import TaskGraph.Text.Bytes

/-!
# Percent signs

Characters that may not stand in a part of an address are written as their bytes, each as a percent sign
and two hexadecimal digits. Each part has its own set of characters that are written so.
-/

set_option autoImplicit false

namespace TaskGraph.Http

open Text (Bytes bytes)

/-- A hexadecimal digit, with capital letters. -/
def capitalHex (n : Nat) : Char := if n < 10 then Char.ofNat (48 + n) else Char.ofNat (55 + n)

/-- A byte behind a percent sign. -/
def percentByte (b : UInt8) : List Char := ['%', capitalHex (b.toNat / 16), capitalHex (b.toNat % 16)]

/-- A set of characters that are not written as they are. -/
abbrev EncodeSet := Char → Bool

namespace EncodeSet

/-- Control characters and everything outside of ASCII. -/
def control : EncodeSet := fun c => c.toNat < 32 || 126 < c.toNat

/-- A set with more characters. -/
def and (s : EncodeSet) (more : String) : EncodeSet := fun c => s c || more.toList.contains c

/-- What a fragment does not hold. -/
def fragment : EncodeSet := control.and " \"<>\x60"

/-- What a query does not hold. -/
def query : EncodeSet := control.and " \"#<>"

/-- What the query of a special scheme does not hold. -/
def specialQuery : EncodeSet := query.and "'"

/-- What a path does not hold. -/
def path : EncodeSet := fragment.and "#?\x7b\x7d"

/-- What a name of a user and a password do not hold. -/
def user : EncodeSet := path.and "/:;=@[\\]^|"

end EncodeSet

/-- Characters with those of a set written as bytes. -/
def percentEncode (s : EncodeSet) (cs : List Char) : String :=
  String.ofList (cs.flatMap fun c =>
    if s c then (bytes (String.singleton c)).flatMap percentByte else [c])

/-- The bytes of characters, two hexadecimal digits behind a percent sign being one byte. -/
def percentDecode : List Char → Bytes
  | '%' :: a :: b :: cs => match Decimal.digitIn? 16 a, Decimal.digitIn? 16 b with
    | some x, some y => (16 * x + y).toUInt8 :: percentDecode cs
    | _, _ => 37 :: percentDecode (a :: b :: cs)
  | c :: cs => bytes (String.singleton c) ++ percentDecode cs
  | [] => []

/-- A character of a form in its written form: a blank is a plus sign. -/
def formByte (b : UInt8) : List Char :=
  let c := Char.ofNat b.toNat
  if c = ' ' then ['+']
  else if b < 128 && (c.isAlphanum || c = '*' || c = '-' || c = '.' || c = '_') then [c]
  else percentByte b

/-- A text in a form. -/
def formText (s : String) : String := String.ofList ((bytes s).flatMap formByte)

/-- Pairs of a form. -/
def formPairs (pairs : List (String × String)) : String :=
  "&".intercalate (pairs.map fun (k, v) => formText k ++ "=" ++ formText v)

end TaskGraph.Http
