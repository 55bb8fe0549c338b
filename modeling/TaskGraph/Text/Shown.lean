import TaskGraph.Json.Printer
import TaskGraph.Text.Property

/-!
# Texts inside messages

A message shows a text in double quotes. Quotes, backslashes and line ends are escaped, and so is
every character without a glyph of its own, by its code point: marks that take no room, separators,
controls, formats, code points without a character and what is not shown unless it is known.
-/

set_option autoImplicit false

namespace TaskGraph.Text

/-- The hexadecimal digits of a number, without zeros in front. -/
def hexText (n : Nat) : String := String.ofList (Nat.toDigits 16 n)

/-- The categories of characters without a glyph of their own. -/
def unseen : List Category :=
  [.nonspacingMark, .enclosingMark] ++ Category.separators ++ Category.others

/-- A character that a message shows by its code point. -/
def isUnseen (c : Char) : Bool :=
  if ' ' ≤ c ∧ c ≤ '~' then false else isDefaultIgnorable c || Category.anyContains unseen c

/-- The characters that stand for one character in a message. -/
def shownChar (c : Char) : List Char :=
  if c = '"' then ['\\', '"']
  else if c = '\\' then ['\\', '\\']
  else if c = '\n' then ['\\', 'n']
  else if c = '\r' then ['\\', 'r']
  else if c = '\t' then ['\\', 't']
  else if c.toNat = 0 then ['\\', '0']
  else if isUnseen c then
    ['\\', 'u', '\x7b'] ++ Nat.toDigits 16 c.toNat ++ ['\x7d']
  else [c]

/-- A text as a message shows it. -/
def shown (s : String) : String :=
  "\"" ++ String.ofList (s.toList.flatMap shownChar) ++ "\""

end TaskGraph.Text
