/-!
# A place in a text

A cursor is the text that is left, with the line and the column at which it starts. A line ends at a
line feed, a carriage return, both in a row, or one of the three Unicode line ends.
-/

set_option autoImplicit false

namespace TaskGraph.Yaml

/-- What is left of a text, and where it starts. -/
structure Cursor where
  rest : List Char
  line : Nat
  column : Nat
  index : Nat

/-- A character that ends a line. -/
def isBreak (c : Char) : Bool :=
  c = '\n' || c = '\r' || c.toNat = 0x85 || c.toNat = 0x2028 || c.toNat = 0x2029

/-- A blank inside a line. -/
def isBlank (c : Char) : Bool := c = ' ' || c = '\t'

/-- Whether the text ends, or a blank or a line end stands, at its front. -/
def atGap : List Char → Bool
  | [] => true
  | c :: _ => isBlank c || isBreak c

/-- Whether a line end stands at the front. -/
def atBreak : List Char → Bool
  | [] => false
  | c :: _ => isBreak c

/-- Whether a blank stands at the front. -/
def atBlank : List Char → Bool
  | [] => false
  | c :: _ => isBlank c

namespace Cursor

/-- The cursor at the start of a text. -/
def start (cs : List Char) : Cursor := ⟨cs, 0, 0, 0⟩

/-- Moves over characters that end no line. -/
def skip (c : Cursor) (n : Nat) : Cursor :=
  { c with rest := c.rest.drop n, column := c.column + n, index := c.index + n }

/-- Moves over a line end and returns the characters that it stands for. -/
def takeBreak (c : Cursor) : List Char × Cursor :=
  let next (n : Nat) : Cursor := ⟨c.rest.drop n, c.line + 1, 0, c.index + n⟩
  match c.rest with
  | '\r' :: '\n' :: _ => (['\n'], next 2)
  | '\r' :: _ | '\n' :: _ => (['\n'], next 1)
  | b :: _ => if b.toNat = 0x85 then (['\n'], next 1) else ([b], next 1)
  | [] => ([], c)

/-- Moves over characters of a kind that end no line, and returns them. -/
def takeWhile (c : Cursor) (p : Char → Bool) : List Char × Cursor :=
  let taken := c.rest.takeWhile p
  (taken, c.skip taken.length)

/-- Whether a line of its own separates documents here. -/
def atDocumentMark (c : Cursor) : Bool :=
  c.column = 0 && match c.rest with
    | '-' :: '-' :: '-' :: rest => atGap rest
    | '.' :: '.' :: '.' :: rest => atGap rest
    | _ => false

end Cursor

end TaskGraph.Yaml
