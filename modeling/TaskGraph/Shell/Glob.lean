/-!
# Patterns of shells

A star matches any characters, a question mark one, and brackets one of some; a backslash takes the
special meaning from the next character.
-/

set_option autoImplicit false

namespace TaskGraph.Shell

/-- Whether a character is among those in brackets. -/
def inBrackets (c : Char) : List Char → Bool
  | a :: '-' :: b :: rest => (a ≤ c && c ≤ b) || inBrackets c rest
  | a :: rest => a = c || inBrackets c rest
  | [] => false

/-- Whether a pattern matches a text as a whole; the fuel bounds the sum of their lengths. -/
def globMatches : Nat → List Char → List Char → Bool
  | 0, _, _ => false
  | _, [], cs => cs.isEmpty
  | fuel + 1, '*' :: ps, cs =>
    globMatches fuel ps cs || match cs with
      | _ :: rest => globMatches fuel ('*' :: ps) rest
      | [] => false
  | fuel + 1, '?' :: ps, _ :: cs => globMatches fuel ps cs
  | fuel + 1, '[' :: ps, c :: cs =>
    match ps.dropWhile (· != ']') with
    | _ :: rest =>
      let set := ps.takeWhile (· != ']')
      match set with
      | '!' :: set => !inBrackets c set && globMatches fuel rest cs
      | set => inBrackets c set && globMatches fuel rest cs
    | [] => c = '[' && globMatches fuel ps cs
  | fuel + 1, '\\' :: p :: ps, c :: cs => p = c && globMatches fuel ps cs
  | fuel + 1, p :: ps, c :: cs => p = c && globMatches fuel ps cs
  | _ + 1, _ :: _, [] => false

/-- Whether a pattern matches a text. -/
def glob (pattern text : String) : Bool :=
  globMatches (2 * (pattern.length + text.length) + 2) pattern.toList text.toList

/-- A text as a pattern that matches nothing else. -/
def literalPattern (text : String) : String := String.ofList (text.toList.flatMap fun c => ['\\', c])

/-- A text without its shortest or longest beginning that a pattern matches. -/
def withoutBeginning (longest : Bool) (pattern text : String) : String :=
  let cuts := List.range (text.length + 1)
  let fits (n : Nat) : Bool := glob pattern (String.ofList (text.toList.take n))
  match (if longest then cuts.reverse else cuts).find? fits with
  | some n => String.ofList (text.toList.drop n)
  | none => text

/-- A text without its shortest or longest end that a pattern matches. -/
def withoutEnding (longest : Bool) (pattern text : String) : String :=
  let cuts := List.range (text.length + 1)
  let fits (n : Nat) : Bool := glob pattern (String.ofList (text.toList.drop n))
  match (if longest then cuts else cuts.reverse).find? fits with
  | some n => String.ofList (text.toList.take n)
  | none => text

end TaskGraph.Shell
